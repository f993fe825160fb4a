import Mathlib.Data.List.Basic
import Mathlib.Data.List.DropRight
import Mathlib.Data.List.Infix
import Mathlib.Data.List.TakeWhile

/-! The `str` operations of Python used by the collector, on text as its list of
code points. What rests on Unicode tables or on other parsers of the standard
library is collected in `TextLibrary`, which every result leaves arbitrary: letter case,
`str.isalnum`, NFKC normalization, decoding with replacement, whether `ipaddress` reads an
IPv6 address, and the canonical form of a UUID where `uuid.UUID` accepts the text. `cut`
is `split(sep, 1)` and `afterLast` is `rsplit(sep, 1)[-1]`. -/
namespace OpenHoundOkta.PythonText

abbrev Text := List Char

structure TextLibrary where
  upper : String → String
  lower : String → String
  isAlnum : Char → Bool
  casefold : String → String
  nfkc : Text → Text
  decodeUtf8 : List UInt8 → Text
  isIpv6 : Text → Bool
  uuid : String → Option String

/- What these operations do on ASCII text that names no IPv6 address and no UUID. -/
def asciiLibrary : TextLibrary where
  upper := String.toUpper
  lower := String.toLower
  isAlnum := Char.isAlphanum
  casefold := String.toLower
  nfkc := id
  decodeUtf8 bytes := bytes.map (fun b => Char.ofNat b.toNat)
  isIpv6 _ := false
  uuid _ := none

theorem alphaRange {c : Char} (letter : c.isAlpha = true) :
    (65 ≤ c.toNat ∧ c.toNat ≤ 90) ∨ 97 ≤ c.toNat ∧ c.toNat ≤ 122 := by
  rcases Bool.or_eq_true_iff.mp letter with upper | lower
  · have range : c.val ≥ 'A'.val ∧ c.val ≤ 'Z'.val := of_decide_eq_true upper
    exact .inl range
  · obtain ⟨low,high⟩ := Bool.and_eq_true_iff.mp lower
    exact .inr ⟨of_decide_eq_true low,of_decide_eq_true high⟩

def hexValue (c : Char) : Nat :=
  if c.isDigit then c.toNat - 48 else if 'a' ≤ c ∧ c ≤ 'f' then c.toNat - 87 else c.toNat - 55

theorem digitRange {c : Char} (digit : c.isDigit = true) : 48 ≤ c.toNat ∧ c.toNat ≤ 57 := by
  obtain ⟨low,high⟩ := Bool.and_eq_true_iff.mp digit
  exact ⟨of_decide_eq_true low,of_decide_eq_true high⟩

theorem alphanumRange {c : Char} (alnum : c.isAlphanum = true) :
    (48 ≤ c.toNat ∧ c.toNat ≤ 57) ∨ (65 ≤ c.toNat ∧ c.toNat ≤ 90) ∨ 97 ≤ c.toNat ∧ c.toNat ≤ 122 :=
  (Bool.or_eq_true_iff.mp alnum).elim (fun letter => .inr (alphaRange letter)) (fun digit => .inl (digitRange digit))

theorem letterNoDigit {c : Char} (letter : c.isAlpha = true) : c.isDigit = false := by
  cases digit : c.isDigit with
  | false => rfl
  | true =>
    have letters := alphaRange letter
    have digits := digitRange digit
    omega

theorem ofLetters {P : Char → Prop} {first : ℕ} (table : ∀ n : Fin 26, P (Char.ofNat (first + n.val))) {c : Char}
    (low : first ≤ c.toNat) (high : c.toNat ≤ first + 25) : P c := by
  have here := table ⟨c.toNat - first,by omega⟩
  rwa [show first + (c.toNat - first) = c.toNat by omega,Char.ofNat_toNat] at here

theorem toLowerTwice (c : Char) : c.toLower.toLower = c.toLower := by
  by_cases upper : c.val ≥ 'A'.val ∧ c.val ≤ 'Z'.val
  · have table : ∀ n : Fin 26, (Char.ofNat (65+n.val)).toLower.toLower = (Char.ofNat (65+n.val)).toLower := by
      decide
    exact @ofLetters (fun c => c.toLower.toLower = c.toLower) 65 table c upper.1 upper.2
  · unfold Char.toLower
    rw [dif_neg upper]
    rw [dif_neg upper]

def lowerLetters (s : String) : String := String.ofList (s.toList.map Char.toLower)

theorem lowerLettersTwice (s : String) : lowerLetters (lowerLetters s) = lowerLetters s := by
  have again : Char.toLower ∘ Char.toLower = Char.toLower := funext toLowerTwice
  unfold lowerLetters
  rw [String.toList_ofList,List.map_map,again]

/- The same, with letter case computed on the list of characters. -/
def letterwiseLibrary : TextLibrary :=
  { asciiLibrary with
    upper := fun s => String.ofList (s.toList.map Char.toUpper)
    lower := lowerLetters
    casefold := lowerLetters }

def isSpace (c : Char) : Bool :=
  let n := c.toNat
  (0x09 ≤ n && n ≤ 0x0d) || (0x1c ≤ n && n ≤ 0x20) || n == 0x85 || n == 0xa0 || n == 0x1680 ||
  (0x2000 ≤ n && n ≤ 0x200a) || n == 0x2028 || n == 0x2029 || n == 0x202f || n == 0x205f || n == 0x3000

def lstrip (p : Char → Bool) (s : Text) : Text := s.dropWhile p

def rstrip (p : Char → Bool) (s : Text) : Text := (s.reverse.dropWhile p).reverse

def strip (s : String) : String := String.ofList (rstrip isSpace (lstrip isSpace s.toList))

def cut (sep : Char) : Text → Text × Option Text
  | [] => ([],none)
  | c::rest => if c = sep then ([],some rest) else (c::(cut sep rest).1,(cut sep rest).2)

def afterLast (sep : Char) (s : Text) : Text := (s.reverse.takeWhile (fun c => c != sep)).reverse

def startsWith (lead : String) (s : Text) : Bool := lead.toList.isPrefixOf s
def endsWith (tail : String) (s : Text) : Bool := tail.toList.isSuffixOf s

theorem cutHead {sep c : Char} (different : c ≠ sep) (rest : Text) :
    ∃ tail, (cut sep (c::rest)).1 = c::tail :=
  ⟨(cut sep rest).1,by simp [cut,different]⟩

theorem lstripHead {p : Char → Bool} {c : Char} (kept : p c = false) (rest : Text) :
    lstrip p (c::rest) = c::rest := by simp [lstrip,kept]

theorem rstripHead {p : Char → Bool} {c : Char} (kept : p c = false) (rest : Text) :
    ∃ tail, rstrip p (c::rest) = c::tail := by
  refine ⟨rstrip p rest,?_⟩
  simp only [rstrip,List.reverse_cons,List.dropWhile_append]
  split
  · rename_i empty
    have none : rest.reverse.dropWhile p = [] := by simpa using empty
    simp [none,kept]
  · simp

theorem memDropWhile {p : Char → Bool} {s : Text} {c : Char} (mem : c ∈ s) (kept : p c = false) :
    c ∈ s.dropWhile p := by
  induction s with
  | nil => exact mem
  | cons d rest ih =>
    cases first : p d with
    | false => simpa [first] using mem
    | true =>
      have different : c ≠ d := by
        intro same
        rw [same,first] at kept
        cases kept
      rw [List.dropWhile_cons_of_pos first]
      exact ih (List.mem_of_ne_of_mem different mem)

theorem stripVisible {s : String} {c : Char} (visible : isSpace c = false) :
    c ∈ (strip s).toList ↔ c ∈ s.toList := by
  unfold strip rstrip lstrip
  rw [String.toList_ofList,List.mem_reverse]
  constructor
  · intro mem
    have inner := List.mem_reverse.mp (List.dropWhile_subset _ mem)
    exact List.dropWhile_subset _ inner
  · intro mem
    have inner := memDropWhile mem visible
    exact memDropWhile (List.mem_reverse.mpr inner) visible

theorem stripEqEmpty {s : String} : strip s = "" ↔ ∀ c ∈ s.toList, isSpace c = true := by
  constructor
  · intro empty c mem
    cases visible : isSpace c with
    | true => rfl
    | false =>
      have kept := (stripVisible visible).mpr mem
      rw [empty] at kept
      cases kept
  · intro blank
    have nothing : s.toList.dropWhile isSpace = [] := List.dropWhile_eq_nil_iff.mpr blank
    simp [strip,rstrip,lstrip,nothing]

theorem stripTwice (s : String) : strip (strip s) = strip s := by
  unfold strip rstrip lstrip
  rw [String.toList_ofList]
  generalize inner : s.toList.dropWhile isSpace = text
  have ahead : text.dropWhile isSpace = text := by
    rw [← inner]
    exact List.dropWhile_idempotent isSpace _
  have behind : (text.reverse.dropWhile isSpace).dropWhile isSpace = text.reverse.dropWhile isSpace :=
    List.dropWhile_idempotent isSpace _
  have start : (text.reverse.dropWhile isSpace).reverse.dropWhile isSpace =
      (text.reverse.dropWhile isSpace).reverse := by
    cases shown : (text.reverse.dropWhile isSpace).reverse with
    | nil => rfl
    | cons c rest =>
      have initial : c::rest <+: text := by
        rw [← shown,← List.reverse_suffix,List.reverse_reverse]
        exact List.dropWhile_suffix _
      obtain ⟨tail,whole⟩ := initial
      cases visible : isSpace c with
      | false => rw [List.dropWhile_cons_of_neg (by simp [visible])]
      | true =>
        rw [← whole,List.cons_append,List.dropWhile_cons_of_pos visible] at ahead
        have shorter := (List.dropWhile_suffix isSpace (l := rest ++ tail)).length_le
        rw [ahead,List.length_cons] at shorter
        omega
  rw [start,List.reverse_reverse,behind]

theorem digitShown {c : Char} (digit : c.isDigit = true) : isSpace c = false := by
  obtain ⟨low,high⟩ := digitRange digit
  simp only [isSpace,Bool.or_eq_false_iff,Bool.and_eq_false_iff,decide_eq_false_iff_not,beq_eq_false_iff_ne]
  omega

theorem stripEnds {s : String} {first last : Char} {inner outer : Text} (begins : s.toList = first::inner)
    (ends : s.toList = outer ++ [last]) (firstShown : isSpace first = false) (lastShown : isSpace last = false) :
    strip s = s := by
  have ahead : lstrip isSpace s.toList = s.toList := by
    rw [begins]
    exact lstripHead firstShown inner
  have behind : rstrip isSpace s.toList = s.toList := by
    rw [rstrip,ends,List.reverse_append,List.reverse_singleton,List.singleton_append,
      List.dropWhile_cons_of_neg (by simp [lastShown]),List.reverse_cons,List.reverse_reverse]
  rw [strip,ahead,behind,String.ofList_toList]

theorem afterLastSuffix (sep : Char) (s : Text) : afterLast sep s <:+ s := by
  have initial : s.reverse.takeWhile (fun c => c != sep) <+: s.reverse := List.takeWhile_prefix _
  simpa [afterLast] using List.reverse_suffix.2 initial

theorem cutAbsent {sep : Char} {s : Text} (absent : sep ∉ s) : cut sep s = (s,none) := by
  induction s with
  | nil => rfl
  | cons c rest ih =>
    rw [List.mem_cons,not_or] at absent
    rw [cut,if_neg (Ne.symm absent.1),ih absent.2]

theorem cutAppend {sep : Char} {s : Text} (absent : sep ∉ s) (rest : Text) :
    cut sep (s ++ sep :: rest) = (s,some rest) := by
  induction s with
  | nil => simp [cut]
  | cons c tail ih =>
    rw [List.mem_cons,not_or] at absent
    rw [List.cons_append,cut,if_neg (Ne.symm absent.1),ih absent.2]

theorem afterLastAppend {sep : Char} {tail : Text} (absent : sep ∉ tail) (s : Text) :
    afterLast sep (s ++ sep :: tail) = tail := by
  have kept : ∀ c ∈ tail.reverse, (c != sep) = true := by
    intro c mem
    rw [bne_iff_ne]
    rintro rfl
    exact absent (List.mem_reverse.mp mem)
  rw [afterLast,List.reverse_append,List.reverse_cons,List.append_assoc,List.takeWhile_append_of_pos kept]
  simp

theorem cutSome {sep : Char} {s a b : Text} (found : cut sep s = (a,some b)) : s = a ++ sep :: b ∧ sep ∉ a := by
  induction s generalizing a with
  | nil => cases found
  | cons c rest ih =>
    rw [cut] at found
    by_cases here : c = sep
    · rw [if_pos here] at found
      cases found
      exact ⟨by rw [here]; rfl,List.not_mem_nil⟩
    · rw [if_neg here] at found
      obtain ⟨rfl,after⟩ := Prod.mk.inj found
      obtain ⟨whole,absent⟩ := ih (Prod.ext rfl after)
      refine ⟨by rw [List.cons_append,← whole],?_⟩
      rw [List.mem_cons,not_or]
      exact ⟨Ne.symm here,absent⟩

theorem cutNone {sep : Char} {s a : Text} (found : cut sep s = (a,none)) : a = s ∧ sep ∉ s := by
  have absent : sep ∉ s := by
    intro mem
    obtain ⟨ahead,behind,whole,unseen⟩ := List.eq_append_cons_of_mem mem
    rw [whole,cutAppend unseen] at found
    cases found
  rw [cutAbsent absent] at found
  exact ⟨(Prod.mk.inj found).1.symm,absent⟩

theorem cutPrefix (sep : Char) (s : Text) : (cut sep s).1 <+: s := by
  cases found : cut sep s with
  | mk a b =>
    cases b with
    | none => rw [(cutNone found).1]
    | some b => exact ⟨sep :: b,(cutSome found).1.symm⟩

theorem afterLastAbsent {sep : Char} {s : Text} (absent : sep ∉ s) : afterLast sep s = s := by
  have kept : ∀ c ∈ s.reverse, (c != sep) = true := by
    intro c mem
    rw [bne_iff_ne]
    rintro rfl
    exact absent (List.mem_reverse.mp mem)
  rw [afterLast,List.takeWhile_eq_self_iff.mpr kept,List.reverse_reverse]

end OpenHoundOkta.PythonText
