import OpenHoundOkta.Library.JsonStrings
import Mathlib.Data.List.Sort
import Mathlib.Data.List.Perm.Basic
import Mathlib.Data.String.Basic

/-! JSON values as `json.loads` reads them and their text with sorted keys and without spaces.
Two values have one text exactly if they differ in the order of keys alone. An `int` and a
`float` are different values, and so are the two zeros of `float`. -/
namespace OpenHoundOkta.CanonicalJson
open PythonText JsonValues JsonStrings

inductive Value (F : Type) where
  | null
  | bool (b : Bool)
  | int (n : ℤ)
  | float (x : F)
  | string (s : String)
  | array (items : List (Value F))
  | object (fields : List (String × Value F))

def isNumberChar (c : Char) : Bool := c.isDigit || c == '-' || c == '+' || c == '.' || c == 'e'

/- `float.__repr__` of the finite numbers: it is read back as the same number, and never
looks like an `int`. -/
structure FloatText (F : Type) where
  repr : F → Text
  injective : ∀ {x y}, repr x = repr y → x = y
  plain : ∀ x, ∀ c ∈ repr x, isNumberChar c = true
  marked : ∀ x, '.' ∈ repr x ∨ 'e' ∈ repr x

def intText : ℤ → Text
  | .ofNat n => Nat.toDigits 10 n
  | .negSucc n => '-' :: Nat.toDigits 10 (n+1)

variable {F : Type} (floats : FloatText F)

mutual
def render : Value F → Text
  | .null => "null".toList
  | .bool b => (if b then "true" else "false").toList
  | .int n => intText n
  | .float x => floats.repr x
  | .string s => quoted s
  | .array [] => ['[',']']
  | .array (item::rest) => '[' :: render item ++ renderItems rest
  | .object [] => ['{','}']
  | .object ((key,value)::rest) => '{' :: quoted key ++ ':' :: render value ++ renderFields rest
def renderItems : List (Value F) → Text
  | [] => [']']
  | item::rest => ',' :: render item ++ renderItems rest
def renderFields : List (String × Value F) → Text
  | [] => ['}']
  | (key,value)::rest => ',' :: quoted key ++ ':' :: render value ++ renderFields rest
end

def byKey (left right : String × Value F) : Prop := left.1 ≤ right.1

instance : DecidableRel (byKey (F := F)) := fun left right => inferInstanceAs (Decidable (left.1 ≤ right.1))

mutual
def sortKeys : Value F → Value F
  | .array items => .array (sortItems items)
  | .object fields => .object ((sortFields fields).insertionSort byKey)
  | value => value
def sortItems : List (Value F) → List (Value F)
  | [] => []
  | item::rest => sortKeys item::sortItems rest
def sortFields : List (String × Value F) → List (String × Value F)
  | [] => []
  | (key,value)::rest => (key,sortKeys value)::sortFields rest
end

/- `json.dumps(value, ensure_ascii=False, separators=(",", ":"), sort_keys=True)` -/
def dumps (value : Value F) : Text := render floats (sortKeys value)

mutual
def Distinct : Value F → Prop
  | .array items => DistinctItems items
  | .object fields => (fields.map Prod.fst).Nodup ∧ DistinctFields fields
  | _ => True
def DistinctItems : List (Value F) → Prop
  | [] => True
  | item::rest => Distinct item ∧ DistinctItems rest
def DistinctFields : List (String × Value F) → Prop
  | [] => True
  | (_,value)::rest => Distinct value ∧ DistinctFields rest
end

mutual
inductive Same : Value F → Value F → Prop
  | null : Same .null .null
  | bool (b : Bool) : Same (.bool b) (.bool b)
  | int (n : ℤ) : Same (.int n) (.int n)
  | float (x : F) : Same (.float x) (.float x)
  | string (s : String) : Same (.string s) (.string s)
  | array {items others : List (Value F)} : SameItems items others → Same (.array items) (.array others)
  | object {fields others reordered : List (String × Value F)} : others.Perm reordered →
      SameFields fields reordered → Same (.object fields) (.object others)
inductive SameItems : List (Value F) → List (Value F) → Prop
  | nil : SameItems [] []
  | cons {item other : Value F} {rest others : List (Value F)} : Same item other → SameItems rest others →
      SameItems (item::rest) (other::others)
inductive SameFields : List (String × Value F) → List (String × Value F) → Prop
  | nil : SameFields [] []
  | cons {key : String} {value other : Value F} {rest others : List (String × Value F)} : Same value other →
      SameFields rest others → SameFields ((key,value)::rest) ((key,other)::others)
end

inductive PythonType where
  | null | bool | int | float | string | array | object
  deriving DecidableEq, Repr

def typeOf : Value F → PythonType
  | .null => .null
  | .bool _ => .bool
  | .int _ => .int
  | .float _ => .float
  | .string _ => .string
  | .array _ => .array
  | .object _ => .object

theorem sameType : ∀ {value other : Value F}, Same value other → typeOf value = typeOf other
  | _,_,.null => rfl
  | _,_,.bool _ => rfl
  | _,_,.int _ => rfl
  | _,_,.float _ => rfl
  | _,_,.string _ => rfl
  | _,_,.array _ => rfl
  | _,_,.object _ _ => rfl

inductive Kind where
  | null | bool | number | string | array | object
  deriving DecidableEq

def kindOf (c : Char) : Option Kind :=
  if c = 'n' then some .null else if c = 't' ∨ c = 'f' then some .bool
  else if isNumberChar c then some .number else if c = '"' then some .string
  else if c = '[' then some .array else if c = '{' then some .object else none

def Value.kind : Value F → Kind
  | .null => .null
  | .bool _ => .bool
  | .int _ | .float _ => .number
  | .string _ => .string
  | .array _ => .array
  | .object _ => .object

theorem numberKind {c : Char} (number : isNumberChar c = true) : kindOf c = some .number := by
  have notNull : c ≠ 'n' := by
    rintro rfl
    cases number
  have notBool : ¬(c = 't' ∨ c = 'f') := by
    rintro (rfl | rfl) <;> cases number
  rw [kindOf,if_neg notNull,if_neg notBool,if_pos number]

theorem digitsPlain {n : ℕ} {c : Char} (mem : c ∈ Nat.toDigits 10 n) : c.isDigit = true :=
  Nat.isDigit_of_mem_toDigits (by decide) (by decide) mem

theorem intPlain (n : ℤ) : intText n ≠ [] ∧ ∀ c ∈ intText n, c.isDigit = true ∨ c = '-' := by
  cases n with
  | ofNat n => exact ⟨Nat.toDigits_ne_nil,fun c mem => .inl (digitsPlain mem)⟩
  | negSucc n =>
    refine ⟨List.cons_ne_nil _ _,fun c mem => ?_⟩
    rcases List.mem_cons.mp mem with rfl | mem
    · exact .inr rfl
    · exact .inl (digitsPlain mem)

theorem intNumber {n : ℤ} {c : Char} (mem : c ∈ intText n) : isNumberChar c = true := by
  rcases (intPlain n).2 c mem with digit | rfl
  · simp [isNumberChar,digit]
  · decide

theorem floatNonempty (x : F) : floats.repr x ≠ [] := by
  intro empty
  rcases floats.marked x with mark | mark <;> rw [empty] at mark <;> cases mark

theorem headNumber {text : Text} (nonempty : text ≠ []) (plain : ∀ c ∈ text, isNumberChar c = true) :
    ∃ c rest, text = c::rest ∧ kindOf c = some .number := by
  cases text with
  | nil => exact absurd rfl nonempty
  | cons c rest => exact ⟨c,rest,rfl,numberKind (plain c List.mem_cons_self)⟩

theorem renderKind (value : Value F) :
    ∃ c rest, render floats value = c::rest ∧ kindOf c = some value.kind := by
  cases value with
  | null => exact ⟨_,_,rfl,rfl⟩
  | bool b => cases b <;> exact ⟨_,_,rfl,rfl⟩
  | int n => exact headNumber (intPlain n).1 (fun _ => intNumber)
  | float x => exact headNumber (floatNonempty floats x) (floats.plain x)
  | string s => exact ⟨_,_,rfl,rfl⟩
  | array items => cases items <;> exact ⟨_,_,rfl,rfl⟩
  | object fields => cases fields <;> exact ⟨_,_,rfl,rfl⟩

def Delimited (rest : Text) : Prop := ∀ c tail, rest = c::tail → isNumberChar c = false

theorem sameKind {value other : Value F} {rest tail : Text}
    (same : render floats value ++ rest = render floats other ++ tail) : value.kind = other.kind := by
  obtain ⟨c,more,text,kind⟩ := renderKind floats value
  obtain ⟨d,less,otherText,otherKind⟩ := renderKind floats other
  rw [text,otherText] at same
  cases (List.cons.inj same).1
  exact Option.some.inj (kind.symm.trans otherKind)

theorem wordSeparate {word other rest tail : Text} (plain : ∀ c ∈ word, isNumberChar c = true)
    (otherPlain : ∀ c ∈ other, isNumberChar c = true) (delimited : Delimited rest) (otherDelimited : Delimited tail)
    (same : word ++ rest = other ++ tail) : word = other ∧ rest = tail := by
  induction word generalizing other with
  | nil =>
    cases other with
    | nil => exact ⟨rfl,same⟩
    | cons d other =>
      have number := otherPlain d List.mem_cons_self
      rw [delimited d _ same] at number
      cases number
  | cons c word ih =>
    cases other with
    | nil =>
      have number := plain c List.mem_cons_self
      rw [otherDelimited c _ same.symm] at number
      cases number
    | cons d other =>
      obtain ⟨rfl,later⟩ := List.cons.inj same
      obtain ⟨words,rests⟩ := ih (fun x mem => plain x (List.mem_cons_of_mem _ mem))
        (fun x mem => otherPlain x (List.mem_cons_of_mem _ mem)) later
      exact ⟨congrArg _ words,rests⟩

theorem intInjective {n m : ℤ} (same : intText n = intText m) : n = m := by
  have digits : ∀ {a b : ℕ}, Nat.toDigits 10 a = Nat.toDigits 10 b → a = b := by
    intro a b equal
    rw [← Nat.ofDigitChars_ten_toDigits (n := a),equal,Nat.ofDigitChars_ten_toDigits]
  have signed : ∀ {a b : ℕ}, Nat.toDigits 10 a ≠ '-' :: Nat.toDigits 10 b := by
    intro a b equal
    have sign := digitsPlain (n := a) (c := '-') (equal ▸ List.mem_cons_self)
    cases sign
  cases n with
  | ofNat n =>
    cases m with
    | ofNat m => exact congrArg Int.ofNat (digits same)
    | negSucc m => exact absurd same signed
  | negSucc n =>
    cases m with
    | ofNat m => exact absurd same.symm signed
    | negSucc m => exact congrArg Int.negSucc (Nat.succ.inj (digits (List.cons.inj same).2))

theorem intNotFloat {n : ℤ} {x : F} : intText n ≠ floats.repr x := by
  intro same
  rcases floats.marked x with mark | mark
  · rw [← same] at mark
    rcases (intPlain n).2 _ mark with digit | sign
    · cases digit
    · cases sign
  · rw [← same] at mark
    rcases (intPlain n).2 _ mark with digit | sign
    · cases digit
    · cases sign

theorem delimitedBy {c : Char} {tail : Text} (ends : isNumberChar c = false) : Delimited (c::tail) := by
  intro d rest same
  cases (List.cons.inj same).1
  exact ends

theorem itemsDelimited (items : List (Value F)) (rest : Text) : Delimited (renderItems floats items ++ rest) := by
  cases items with
  | nil => exact delimitedBy rfl
  | cons item items => exact delimitedBy rfl

theorem fieldsDelimited (fields : List (String × Value F)) (rest : Text) :
    Delimited (renderFields floats fields ++ rest) := by
  cases fields with
  | nil => exact delimitedBy rfl
  | cons field fields => exact delimitedBy rfl

theorem renderNotClosed {value : Value F} {rest tail : Text} : render floats value ++ rest ≠ ']' :: tail := by
  intro same
  obtain ⟨c,more,text,kind⟩ := renderKind floats value
  rw [text] at same
  cases (List.cons.inj same).1
  cases kind

theorem boolSeparate {b d : Bool} {rest tail : Text}
    (same : render floats (.bool b) ++ rest = render floats (.bool d) ++ tail) : b = d ∧ rest = tail := by
  cases b <;> cases d <;> simp only [render] at same
  · exact ⟨rfl,List.append_cancel_left same⟩
  · cases (List.cons.inj same).1
  · cases (List.cons.inj same).1
  · exact ⟨rfl,List.append_cancel_left same⟩

mutual
theorem renderSeparate : ∀ (value other : Value F) {rest tail : Text}, Delimited rest → Delimited tail →
    render floats value ++ rest = render floats other ++ tail → value = other ∧ rest = tail
  | .null,other,rest,tail,_,_,same => by
    cases other <;> try cases sameKind floats same
    exact ⟨rfl,List.append_cancel_left same⟩
  | .bool b,other,rest,tail,_,_,same => by
    cases other <;> try cases sameKind floats same
    obtain ⟨values,rests⟩ := boolSeparate floats same
    exact ⟨congrArg _ values,rests⟩
  | .int n,other,rest,tail,ended,otherEnded,same => by
    cases other <;> try cases sameKind floats same
    · obtain ⟨words,rests⟩ := wordSeparate (fun _ => intNumber) (fun _ => intNumber) ended otherEnded same
      exact ⟨congrArg _ (intInjective words),rests⟩
    · rename_i x
      exact absurd (wordSeparate (fun _ => intNumber) (floats.plain x) ended otherEnded same).1 (intNotFloat floats)
  | .float x,other,rest,tail,ended,otherEnded,same => by
    cases other <;> try cases sameKind floats same
    · exact absurd (wordSeparate (floats.plain x) (fun _ => intNumber) ended otherEnded same).1.symm
        (intNotFloat floats)
    · rename_i y
      obtain ⟨words,rests⟩ := wordSeparate (floats.plain x) (floats.plain y) ended otherEnded same
      exact ⟨congrArg _ (floats.injective words),rests⟩
  | .string s,other,rest,tail,_,_,same => by
    cases other <;> try cases sameKind floats same
    obtain ⟨texts,rests⟩ := plainQuotedSeparate same
    exact ⟨congrArg _ texts,rests⟩
  | .array items,other,rest,tail,_,_,same => by
    cases other <;> try cases sameKind floats same
    rename_i others
    obtain ⟨lists,rests⟩ := arraySeparate items others same
    exact ⟨congrArg _ lists,rests⟩
  | .object fields,other,rest,tail,_,_,same => by
    cases other <;> try cases sameKind floats same
    rename_i others
    obtain ⟨lists,rests⟩ := objectSeparate fields others same
    exact ⟨congrArg _ lists,rests⟩
theorem arraySeparate : ∀ (items others : List (Value F)) {rest tail : Text},
    render floats (.array items) ++ rest = render floats (.array others) ++ tail → items = others ∧ rest = tail
  | [],[],rest,tail,same => ⟨rfl,List.append_cancel_left same⟩
  | [],other::others,rest,tail,same => by
    simp only [render,List.cons_append,List.append_assoc] at same
    exact absurd (List.cons.inj same).2.symm (renderNotClosed floats)
  | item::items,[],rest,tail,same => by
    simp only [render,List.cons_append,List.append_assoc] at same
    exact absurd (List.cons.inj same).2 (renderNotClosed floats)
  | item::items,other::others,rest,tail,same => by
    simp only [render,List.cons_append,List.append_assoc] at same
    obtain ⟨first,later⟩ := renderSeparate item other (itemsDelimited floats _ _) (itemsDelimited floats _ _)
      (List.cons.inj same).2
    obtain ⟨lists,rests⟩ := itemsSeparate items others later
    exact ⟨by rw [first,lists],rests⟩
theorem itemsSeparate : ∀ (items others : List (Value F)) {rest tail : Text},
    renderItems floats items ++ rest = renderItems floats others ++ tail → items = others ∧ rest = tail
  | [],[],rest,tail,same => ⟨rfl,List.append_cancel_left same⟩
  | [],other::others,rest,tail,same => by cases (List.cons.inj same).1
  | item::items,[],rest,tail,same => by cases (List.cons.inj same).1
  | item::items,other::others,rest,tail,same => by
    simp only [renderItems,List.cons_append,List.append_assoc] at same
    obtain ⟨first,later⟩ := renderSeparate item other (itemsDelimited floats _ _) (itemsDelimited floats _ _)
      (List.cons.inj same).2
    obtain ⟨lists,rests⟩ := itemsSeparate items others later
    exact ⟨by rw [first,lists],rests⟩
theorem objectSeparate : ∀ (fields others : List (String × Value F)) {rest tail : Text},
    render floats (.object fields) ++ rest = render floats (.object others) ++ tail → fields = others ∧ rest = tail
  | [],[],rest,tail,same => ⟨rfl,List.append_cancel_left same⟩
  | [],(key,value)::others,rest,tail,same => by
    simp only [render,quoted,List.cons_append,List.append_assoc] at same
    cases (List.cons.inj (List.cons.inj same).2).1
  | (key,value)::fields,[],rest,tail,same => by
    simp only [render,quoted,List.cons_append,List.append_assoc] at same
    cases (List.cons.inj (List.cons.inj same).2).1
  | (key,value)::fields,(name,other)::others,rest,tail,same => by
    simp only [render,List.cons_append,List.append_assoc] at same
    obtain ⟨keys,values⟩ := plainQuotedSeparate (List.cons.inj same).2
    obtain ⟨first,later⟩ := renderSeparate value other (fieldsDelimited floats _ _) (fieldsDelimited floats _ _)
      (List.cons.inj values).2
    obtain ⟨lists,rests⟩ := fieldsSeparate fields others later
    exact ⟨by rw [keys,first,lists],rests⟩
theorem fieldsSeparate : ∀ (fields others : List (String × Value F)) {rest tail : Text},
    renderFields floats fields ++ rest = renderFields floats others ++ tail → fields = others ∧ rest = tail
  | [],[],rest,tail,same => ⟨rfl,List.append_cancel_left same⟩
  | [],(key,value)::others,rest,tail,same => by cases (List.cons.inj same).1
  | (key,value)::fields,[],rest,tail,same => by cases (List.cons.inj same).1
  | (key,value)::fields,(name,other)::others,rest,tail,same => by
    simp only [renderFields,List.cons_append,List.append_assoc] at same
    obtain ⟨keys,values⟩ := plainQuotedSeparate (List.cons.inj same).2
    obtain ⟨first,later⟩ := renderSeparate value other (fieldsDelimited floats _ _) (fieldsDelimited floats _ _)
      (List.cons.inj values).2
    obtain ⟨lists,rests⟩ := fieldsSeparate fields others later
    exact ⟨by rw [keys,first,lists],rests⟩
end

theorem sortFieldsMap (fields : List (String × Value F)) :
    sortFields fields = fields.map (fun field => (field.1,sortKeys field.2)) := by
  induction fields with
  | nil => rfl
  | cons field rest ih => exact congrArg (_::·) ih

theorem sortFieldsKeys (fields : List (String × Value F)) :
    (sortFields fields).map Prod.fst = fields.map Prod.fst := by
  rw [sortFieldsMap,List.map_map]
  rfl

instance : IsTrans (String × Value F) byKey := ⟨fun _ _ _ first second => le_trans first second⟩
instance : Std.Total (byKey (F := F)) := ⟨fun left right => le_total left.1 right.1⟩

theorem sortPerm {fields others : List (String × Value F)} (distinct : (fields.map Prod.fst).Nodup)
    (perm : fields.Perm others) : fields.insertionSort byKey = others.insertionSort byKey := by
  have left := List.perm_insertionSort byKey fields
  have right := List.perm_insertionSort byKey others
  have once : ∀ a b, a ∈ fields → b ∈ fields → a.1 = b.1 → a = b := by
    intro a b first second same
    exact List.inj_on_of_nodup_map distinct first second same
  refine List.Perm.eq_of_pairwise (fun a b first second below above => ?_)
    (List.pairwise_insertionSort byKey fields) (List.pairwise_insertionSort byKey others)
    (left.trans (perm.trans right.symm))
  exact once a b (left.mem_iff.mp first) (perm.mem_iff.mpr (right.mem_iff.mp second)) (le_antisymm below above)

theorem sortedAlike {fields others : List (String × Value F)}
    (same : (sortFields fields).insertionSort byKey = (sortFields others).insertionSort byKey) :
    ∃ reordered, others.Perm reordered ∧ sortFields fields = sortFields reordered := by
  have perm : (sortFields fields).Perm (others.map (fun field => (field.1,sortKeys field.2))) := by
    rw [← sortFieldsMap]
    exact (List.perm_insertionSort byKey _).symm.trans (same ▸ List.perm_insertionSort byKey _)
  obtain ⟨reordered,mapped,order⟩ := (congrFun (congrFun (List.eq_map_comp_perm _) _) _).mpr perm
  exact ⟨reordered,order.symm,by rw [mapped,sortFieldsMap]⟩

mutual
theorem sameOfSorted : ∀ (value other : Value F), sortKeys value = sortKeys other → Same value other
  | .null,other,same => by
    cases other <;> simp only [sortKeys,reduceCtorEq] at same
    exact .null
  | .bool b,other,same => by
    cases other <;> simp only [sortKeys,reduceCtorEq,Value.bool.injEq] at same
    exact same ▸ .bool b
  | .int n,other,same => by
    cases other <;> simp only [sortKeys,reduceCtorEq,Value.int.injEq] at same
    exact same ▸ .int n
  | .float x,other,same => by
    cases other <;> simp only [sortKeys,reduceCtorEq,Value.float.injEq] at same
    exact same ▸ .float x
  | .string s,other,same => by
    cases other <;> simp only [sortKeys,reduceCtorEq,Value.string.injEq] at same
    exact same ▸ .string s
  | .array items,other,same => by
    cases other <;> simp only [sortKeys,reduceCtorEq,Value.array.injEq] at same
    exact .array (itemsOfSorted items _ same)
  | .object fields,other,same => by
    cases other <;> simp only [sortKeys,reduceCtorEq,Value.object.injEq] at same
    obtain ⟨reordered,perm,sorted⟩ := sortedAlike same
    exact .object perm (fieldsOfSorted fields reordered sorted)
theorem itemsOfSorted : ∀ (items others : List (Value F)), sortItems items = sortItems others → SameItems items others
  | [],[],_ => .nil
  | [],_::_,same => nomatch same
  | _::_,[],same => nomatch same
  | item::items,other::others,same => by
    simp only [sortItems,List.cons.injEq] at same
    exact .cons (sameOfSorted item other same.1) (itemsOfSorted items others same.2)
theorem fieldsOfSorted : ∀ (fields others : List (String × Value F)), sortFields fields = sortFields others →
    SameFields fields others
  | [],[],_ => .nil
  | [],_::_,same => nomatch same
  | _::_,[],same => nomatch same
  | (key,value)::fields,(name,other)::others,same => by
    simp only [sortFields,List.cons.injEq,Prod.mk.injEq] at same
    obtain ⟨⟨rfl,first⟩,later⟩ := same
    exact .cons (sameOfSorted value other first) (fieldsOfSorted fields others later)
end

theorem distinctFieldsMem {fields : List (String × Value F)} :
    DistinctFields fields ↔ ∀ field ∈ fields, Distinct field.2 := by
  induction fields with
  | nil => exact ⟨fun _ _ mem => (nomatch mem),fun _ => trivial⟩
  | cons field rest ih =>
    rw [List.forall_mem_cons]
    exact and_congr_right fun _ => ih

mutual
theorem sortedOfSame : ∀ (value other : Value F), Distinct other → Same value other → sortKeys value = sortKeys other
  | .null,_,_,.null => rfl
  | .bool _,_,_,.bool _ => rfl
  | .int _,_,_,.int _ => rfl
  | .float _,_,_,.float _ => rfl
  | .string _,_,_,.string _ => rfl
  | .array items,.array others,distinct,.array same => by
    rw [sortKeys,sortKeys,sortedOfItems items others distinct same]
  | .object fields,.object others,distinct,.object perm same => by
    have reordered := distinctFieldsMem.mpr fun field mem =>
      distinctFieldsMem.mp distinct.2 field (perm.mem_iff.mpr mem)
    have once : ((sortFields others).map Prod.fst).Nodup := (sortFieldsKeys others).symm ▸ distinct.1
    have mapped := perm.map (fun field => (field.1,sortKeys field.2))
    rw [← sortFieldsMap,← sortFieldsMap] at mapped
    rw [sortKeys,sortKeys,sortedOfFields fields _ reordered same,sortPerm once mapped]
theorem sortedOfItems : ∀ (items others : List (Value F)), DistinctItems others → SameItems items others →
    sortItems items = sortItems others
  | [],[],_,.nil => rfl
  | item::items,other::others,distinct,.cons first later => by
    rw [sortItems,sortItems,sortedOfSame item other distinct.1 first,sortedOfItems items others distinct.2 later]
theorem sortedOfFields : ∀ (fields others : List (String × Value F)), DistinctFields others → SameFields fields others →
    sortFields fields = sortFields others
  | [],[],_,.nil => rfl
  | (_,value)::fields,(_,other)::others,distinct,.cons first later => by
    rw [sortFields,sortFields,sortedOfSame value other distinct.1 first,sortedOfFields fields others distinct.2 later]
end

theorem sortKeysSame {value other : Value F} (distinct : Distinct other) :
    sortKeys value = sortKeys other ↔ Same value other :=
  ⟨sameOfSorted value other,sortedOfSame value other distinct⟩

theorem dumpsSorted {value other : Value F} :
    dumps floats value = dumps floats other ↔ sortKeys value = sortKeys other := by
  refine ⟨fun same => ?_,congrArg (render floats)⟩
  have closed : Delimited [] := fun _ _ cons => nomatch cons
  have texts : render floats (sortKeys value) ++ [] = render floats (sortKeys other) ++ [] := by
    rw [List.append_nil,List.append_nil]
    exact same
  exact (renderSeparate floats _ _ closed closed texts).1

theorem sortKeysOrdered {fields : List (String × Value F)} (ordered : (fields.map Prod.fst).Pairwise (· ≤ ·)) :
    sortKeys (.object fields) = .object (sortFields fields) := by
  have pairwise : (sortFields fields).Pairwise byKey := by
    rw [← sortFieldsKeys] at ordered
    rw [List.pairwise_map] at ordered
    exact ordered
  rw [sortKeys,pairwise.insertionSort_eq]

end OpenHoundOkta.CanonicalJson
