import OpenHoundOkta.Library.PythonNumbers

/-! Texts of digits. `str.isdigit` accepts more characters than `float` reads: the two tables
agree on ASCII, and every character with a decimal value is a digit. -/
namespace OpenHoundOkta.DigitTexts
open PythonText PythonNumbers

structure DigitTables where
  isDigit : Char → Bool
  decimal : Char → Option Nat

structure DigitTables.Lawful (tables : DigitTables) : Prop where
  asciiDigits : ∀ c : Char, c.toNat < 128 → tables.isDigit c = c.isDigit
  asciiDecimals : ∀ c : Char, c.toNat < 128 → tables.decimal c = asciiDigit c
  decimalDigit : ∀ c, tables.decimal c ≠ none → tables.isDigit c = true

def allDigits (tables : DigitTables) (s : Text) : Bool := s ≠ [] && s.all tables.isDigit

/- Latin-1, as headers are decoded: the superscripts are digits without a decimal value. -/
def latinTables : DigitTables where
  isDigit c := c.isDigit || c ∈ ['²','³','¹']
  decimal := asciiDigit

theorem latinLawful : latinTables.Lawful where
  asciiDigits c small := by
    have other : c ∉ ['²','³','¹'] := by
      intro mem
      simp at mem
      rcases mem with rfl | rfl | rfl <;> revert small <;> decide
    unfold latinTables
    simp only [decide_eq_false other,Bool.or_false]
  asciiDecimals _ _ := rfl
  decimalDigit c some := by
    unfold latinTables asciiDigit at *
    by_cases digit : c.isDigit = true
    · simp [digit]
    · simp [digit] at some

variable {tables : DigitTables} {s : Text}

theorem stripNumberVisible {text : String} {c : Char} (visible : numberSpace c = false) (mem : c ∈ text.toList) :
    c ∈ (stripNumber text).toList := by
  unfold stripNumber rstrip lstrip
  rw [String.toList_ofList,List.mem_reverse]
  exact memDropWhile (List.mem_reverse.mpr (memDropWhile mem visible)) visible

theorem stripNumberKept {text : String} {c : Char} (mem : c ∈ (stripNumber text).toList) : c ∈ text.toList := by
  unfold stripNumber rstrip lstrip at mem
  rw [String.toList_ofList,List.mem_reverse] at mem
  exact (List.dropWhile_sublist _).subset (List.mem_reverse.mp ((List.dropWhile_sublist _).subset mem))

theorem stripNumberNonempty {text : String} (all : allDigits tables (strip text).toList = true) :
    (stripNumber text).toList ≠ [] := by
  unfold allDigits at all
  rw [Bool.and_eq_true] at all
  intro empty
  have blank : ∀ c ∈ text.toList, isSpace c = true := by
    intro c mem
    cases space : isSpace c with
    | true => rfl
    | false =>
      have kept : c ∈ (stripNumber text).toList := stripNumberVisible (by simp [numberSpace,space]) mem
      rw [empty] at kept
      cases kept
  have nothing := stripEqEmpty.mpr blank
  rw [nothing] at all
  simp at all

def PaddedDigits (tables : DigitTables) (s : Text) : Prop := ∀ c ∈ s, isSpace c = true ∨ tables.isDigit c = true

theorem paddedText {text : String} (all : allDigits tables (strip text).toList = true) :
    PaddedDigits tables (stripNumber text).toList := by
  intro c mem
  unfold allDigits at all
  rw [Bool.and_eq_true] at all
  cases space : isSpace c with
  | true => exact .inl rfl
  | false => exact .inr (List.all_eq_true.mp all.2 c ((stripVisible space).mpr (stripNumberKept mem)))

theorem notDigit (lawful : tables.Lawful) (all : PaddedDigits tables s) {c : Char}
    (small : c.toNat < 128) (other : c.isDigit = false) (visible : isSpace c = false) : c ∉ s := by
  intro mem
  rcases all c mem with space | digit
  · rw [visible] at space
    cases space
  · rw [lawful.asciiDigits c small,other] at digit
    cases digit

theorem digitsRead (nonempty : s ≠ []) (plain : '_' ∉ s) :
    (digits tables.decimal s).isSome = true ↔ ∀ c ∈ s, tables.decimal c ≠ none := by
  induction s with
  | nil => exact absurd rfl nonempty
  | cons c rest ih =>
    cases rest with
    | nil => simp [digits,Option.isSome_iff_ne_none]
    | cons d more =>
      rw [List.mem_cons,not_or] at plain
      have separate : ∀ tail, d :: more = '_' :: tail → False := by
        intro tail same
        exact plain.2 (by rw [same]; exact List.mem_cons_self)
      have later := ih (List.cons_ne_nil _ _) plain.2
      rw [digits.eq_4 tables.decimal c (d::more) (List.cons_ne_nil _ _) separate,List.forall_mem_cons,← later]
      cases tables.decimal c with
      | none => simp
      | some n =>
        cases digits tables.decimal (d::more) with
        | none => simp
        | some ns => simp

theorem paddedLower (lawful : tables.Lawful) {c : Char} (padded : isSpace c = true ∨ tables.isDigit c = true) :
    c.toLower = c := by
  unfold Char.toLower
  apply dif_neg
  intro upper
  have bounds : 65 ≤ c.toNat ∧ c.toNat ≤ 90 := upper
  rcases padded with space | digit
  · simp [isSpace] at space
    omega
  · rw [lawful.asciiDigits c (by omega)] at digit
    have low := digitRange digit
    omega

theorem unsigned (lawful : tables.Lawful) (all : PaddedDigits tables s) : signed s = (false,s) := by
  have noMinus : '-' ∉ s := notDigit lawful all (by decide) (by decide) (by decide)
  have noPlus : '+' ∉ s := notDigit lawful all (by decide) (by decide) (by decide)
  unfold signed
  split
  · exact absurd List.mem_cons_self noMinus
  · exact absurd List.mem_cons_self noPlus
  · rfl

theorem noWord (lawful : tables.Lawful) (all : PaddedDigits tables s) :
    ¬(s.map Char.toLower = "inf".toList ∨ s.map Char.toLower = "infinity".toList) ∧
      s.map Char.toLower ≠ "nan".toList := by
  have same : s.map Char.toLower = s :=
    (List.map_congr_left (fun c mem => paddedLower lawful (all c mem))).trans (List.map_id s)
  have letterless : 'n' ∉ s := notDigit lawful all (by decide) (by decide) (by decide)
  rw [same]
  refine ⟨?_,?_⟩
  · rintro (rfl | rfl)
    · exact letterless (by decide)
    · exact letterless (by decide)
  · rintro rfl
    exact letterless (by decide)

theorem floatOfDigits (lawful : tables.Lawful) {text : String}
    (all : allDigits tables (strip text).toList = true) :
    floatOf tables.decimal text =
      (digits tables.decimal (stripNumber text).toList).map (fun ds => readFloat false (decimal ds)) := by
  have padded := paddedText all
  unfold floatOf
  generalize (stripNumber text).toList = t at padded
  obtain ⟨noInfinity,noNan⟩ := noWord lawful padded
  have noE : 'E' ∉ t := notDigit lawful padded (by decide) (by decide) (by decide)
  have noExponent : 'e' ∉ t := notDigit lawful padded (by decide) (by decide) (by decide)
  have noPoint : '.' ∉ t := notDigit lawful padded (by decide) (by decide) (by decide)
  have kept : t.map (fun c => if c = 'E' then 'e' else c) = t := by
    refine (List.map_congr_left (fun c mem => ?_)).trans (List.map_id t)
    rw [if_neg]
    · rfl
    · rintro rfl
      exact noE mem
  simp only [unsigned lawful padded,if_neg noInfinity,if_neg noNan,kept,cutAbsent noExponent,mantissa,
    cutAbsent noPoint]
  cases digits tables.decimal t with
  | none => rfl
  | some ds =>
    change some (readFloat false ((decimal ds : ℚ) * 10 ^ ((0 : Int) - ((0 : Nat) : Int)))) = _
    rw [Nat.cast_zero,sub_zero,zpow_zero,mul_one]
    rfl

theorem floatReads (lawful : tables.Lawful) {text : String}
    (all : allDigits tables (strip text).toList = true) :
    (∀ c ∈ (stripNumber text).toList, tables.decimal c ≠ none) →
      ∃ magnitude : Nat, floatOf tables.decimal text = some (readFloat false magnitude) := by
  intro each
  rw [floatOfDigits lawful all]
  have padded := paddedText all
  have plain : '_' ∉ (stripNumber text).toList :=
    notDigit lawful padded (by decide) (by decide) (by decide)
  obtain ⟨ds,read⟩ := Option.isSome_iff_exists.mp ((digitsRead (stripNumberNonempty all) plain).mpr each)
  exact ⟨decimal ds,by rw [read]; rfl⟩

theorem floatRefuses (lawful : tables.Lawful) {text : String}
    (all : allDigits tables (strip text).toList = true) {c : Char} (mem : c ∈ (stripNumber text).toList)
    (valueless : tables.decimal c = none) : floatOf tables.decimal text = none := by
  rw [floatOfDigits lawful all]
  have padded := paddedText all
  have plain : '_' ∉ (stripNumber text).toList :=
    notDigit lawful padded (by decide) (by decide) (by decide)
  have unread : ¬(digits tables.decimal (stripNumber text).toList).isSome = true := by
    intro read
    exact (digitsRead (stripNumberNonempty all) plain).mp read c mem valueless
  rw [Option.not_isSome_iff_eq_none.mp unread]
  rfl

/- `regexp_extract(text,'([0-9]+)$',1)`: the leftmost place from which only digits follow. -/
def trailingDigits : Text → Text
  | [] => []
  | c::rest => if (c::rest).all Char.isDigit then c::rest else trailingDigits rest

theorem trailingDigitsAfter {separator : Char} (apart : separator.isDigit = false) (before : Text)
    {ds : Text} (all : ds.all Char.isDigit = true) :
    trailingDigits (before ++ separator::ds) = ds := by
  have mixed : ∀ text : Text, (text ++ separator::ds).all Char.isDigit = false := by
    intro text
    rw [List.all_append,List.all_cons,apart,Bool.false_and,Bool.and_false]
  induction before with
  | nil =>
    rw [List.nil_append,trailingDigits,if_neg (by rw [List.all_cons,apart]; exact Bool.false_ne_true)]
    cases ds with
    | nil => rfl
    | cons d rest => rw [trailingDigits,if_pos all]
  | cons c rest ih =>
    rw [List.cons_append,trailingDigits,if_neg (by rw [← List.cons_append,mixed]; exact Bool.false_ne_true)]
    exact ih

theorem printedDigits (n : Nat) : n.repr.toList.all Char.isDigit = true := by
  rw [List.all_eq_true,Nat.toList_repr]
  intro c mem
  exact Nat.isDigit_of_mem_toDigits (by decide) (by decide) mem

theorem printedRead (n : Nat) : Nat.ofDigitChars 10 n.repr.toList 0 = n := by
  rw [Nat.toList_repr]
  exact Nat.ofDigitChars_ten_toDigits

theorem printedInjective {m n : Nat} (same : m.repr = n.repr) : m = n := by
  rw [← printedRead m,same,printedRead]

theorem printedUnsigned (m n : Nat) : m.repr ≠ (Int.negSucc n).repr := by
  intro same
  have sign : '-' ∈ (Int.negSucc n).repr.toList := by
    have printed : (Int.negSucc n).repr = "-" ++ (n + 1).repr := rfl
    rw [printed,String.toList_append]
    exact List.mem_append_left _ (by decide)
  rw [← same] at sign
  exact absurd (List.all_eq_true.mp (printedDigits m) _ sign) (by decide)

theorem printedIntInjective {i j : Int} (same : i.repr = j.repr) : i = j := by
  cases i with
  | ofNat m =>
    cases j with
    | ofNat n => exact congrArg Int.ofNat (printedInjective same)
    | negSucc n => exact absurd same (printedUnsigned m n)
  | negSucc m =>
    cases j with
    | ofNat n => exact absurd same.symm (printedUnsigned n m)
    | negSucc n => exact congrArg Int.negSucc (Nat.succ.inj (printedInjective (String.append_right_inj "-" |>.mp same)))

end OpenHoundOkta.DigitTexts
