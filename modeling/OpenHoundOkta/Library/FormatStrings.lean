import OpenHoundOkta.Library.PythonText
import Mathlib.Algebra.Ring.Nat

/-! `str.format_map` of CPython 3.13 with `str` values: the reader of a template, the format
specification of a `str`, and replacement fields, which may stand in a specification once
more. A missing result is an exception. -/
namespace OpenHoundOkta.FormatStrings
open PythonText (Text)

/-! `Formatter().parse`, one character at a time. -/

structure Field where
  name : Text
  conversion : Option Char
  spec : Text
  deriving DecidableEq, Repr

inductive Piece where
  | char (c : Char)
  | field (f : Field)
  deriving DecidableEq, Repr

inductive Mode where
  | literal
  | name (read : Text)
  | index (read : Text)
  | conversion (name : Text)
  | converted (name : Text) (conversion : Char)
  | spec (name : Text) (conversion : Option Char) (read : Text) (depth : ℕ)

-- the character NUL counts as no conversion
def conversionOf (c : Char) : Option Char := if c.toNat = 0 then none else some c

def scan : Mode → Text → Option (List Piece)
  | .literal,[] => some []
  | .literal,'{' :: '{' :: rest => (scan .literal rest).map (.char '{' :: ·)
  | .literal,'}' :: '}' :: rest => (scan .literal rest).map (.char '}' :: ·)
  | .literal,'}' :: _ => none
  | .literal,'{' :: rest => scan (.name []) rest
  | .literal,c::rest => (scan .literal rest).map (.char c :: ·)
  | .name read,c::rest =>
    if c = '{' then none
    else if c = '}' then (scan .literal rest).map (.field ⟨read,none,[]⟩ :: ·)
    else if c = ':' then scan (.spec read none [] 1) rest
    else if c = '!' then scan (.conversion read) rest
    else if c = '[' then scan (.index (read ++ [c])) rest
    else scan (.name (read ++ [c])) rest
  | .index read,c::rest => scan (if c = ']' then .name (read ++ [c]) else .index (read ++ [c])) rest
  | .conversion name,c::rest => scan (.converted name c) rest
  | .converted name conversion,c::rest =>
    if c = '}' then (scan .literal rest).map (.field ⟨name,conversionOf conversion,[]⟩ :: ·)
    else if c = ':' then scan (.spec name (conversionOf conversion) [] 1) rest
    else none
  | .spec name conversion read depth,c::rest =>
    if c = '}' ∧ depth ≤ 1 then (scan .literal rest).map (.field ⟨name,conversion,read⟩ :: ·)
    else scan (.spec name conversion (read ++ [c])
      (if c = '{' then depth + 1 else if c = '}' then depth - 1 else depth)) rest
  | _,[] => none

def parse (template : Text) : Option (List Piece) := scan .literal template

def fieldsOf (pieces : List Piece) : List Field :=
  pieces.filterMap fun piece =>
    match piece with
    | .char _ => none
    | .field f => some f

structure StringFormat where
  fill : Char
  align : Char
  width : Option ℕ
  precision : Option ℕ
  deriving DecidableEq, Repr

def maxSize : ℕ := 2 ^ 63 - 1

variable (digit : Char → Option ℕ)

def readDigits (value : ℕ) : Text → Option (ℕ × Text)
  | [] => some (value,[])
  | c::rest =>
    match digit c with
    | none => some (value,c::rest)
    | some d => if maxSize < value * 10 + d then none else readDigits (value * 10 + d) rest

def readNumber (s : Text) : Option (Option ℕ × Text) :=
  if (s.head?.bind digit).isSome then (readDigits digit 0 s).map fun read => (some read.1,read.2)
  else some (none,s)

def isAlignment (c : Char) : Bool := c == '<' || c == '>' || c == '=' || c == '^'

def takeAlignment : Text → Option Char × Option Char × Text
  | c::a::rest =>
    if isAlignment a then (some c,some a,rest)
    else if isAlignment c then (none,some c,a::rest)
    else (none,none,c::a::rest)
  | [c] => if isAlignment c then (none,some c,[]) else (none,none,[c])
  | [] => (none,none,[])

def takeZero (fill : Option Char) (s : Text) : Option Char × Text :=
  match fill,s with
  | none,'0' :: rest => (some '0',rest)
  | _,_ => (fill,s)

def takePrecision : Text → Option (Option ℕ × Text)
  | '.' :: rest =>
    match readNumber digit rest with
    | some (some precision,rest) => some (some precision,rest)
    | _ => none
  | s => some (none,s)

/- A sign, `z`, `#`, a separator of thousands, the alignment `=` and a type other than `s` are
for numbers only. -/
def stringSpec (spec : Text) : Option StringFormat := do
  let (fill,align,rest) := takeAlignment spec
  if rest.head?.any (fun c => c ∈ " +-z#".toList) then none
  else
    let (fill,rest) := takeZero fill rest
    let (width,rest) ← readNumber digit rest
    if rest.head?.any (fun c => c ∈ ",_".toList) then none
    else
      let (precision,rest) ← takePrecision digit rest
      if (rest = [] ∨ rest = ['s']) ∧ align ≠ some '=' then
        some ⟨fill.getD ' ',align.getD '<',width,precision⟩
      else none

def StringFormat.Fits (format : StringFormat) (length : ℕ) : Prop :=
  (∀ width ∈ format.width, width ≤ length) ∧ ∀ precision ∈ format.precision, length ≤ precision

instance (format : StringFormat) (length : ℕ) : Decidable (format.Fits length) := by
  unfold StringFormat.Fits
  infer_instance

def StringFormat.cut (format : StringFormat) (s : Text) : Text :=
  match format.precision with
  | some precision => s.take precision
  | none => s

def StringFormat.pad (format : StringFormat) (s : Text) : Text :=
  let missing := format.width.getD 0 - s.length
  let left := if format.align = '>' then missing else if format.align = '^' then missing / 2 else 0
  List.replicate left format.fill ++ s ++ List.replicate (missing - left) format.fill

def StringFormat.apply (format : StringFormat) (s : Text) : Text :=
  if format.Fits s.length then s else format.pad (format.cut s)

def formatString (s spec : Text) : Option Text := (stringSpec digit spec).map (·.apply s)

/-! Replacement fields. -/

/- The objects that a replacement field may reach: the values, which are `str`, and what the
rest of a field name (`.name` and `[index]`) finds in them. -/
structure PythonObjects (O : Type) where
  digit : Char → Option ℕ
  text : Text → O
  follow : O → Text → Option O
  str : O → Option Text
  repr : O → Option Text
  ascii : O → Option Text
  format : O → Text → Option Text
  strText : ∀ s, str (text s) = some s
  reprText : ∀ s, ∃ shown, repr (text s) = some shown ∧ s.length < shown.length
  asciiText : ∀ s, ∃ shown, ascii (text s) = some shown ∧ s.length < shown.length
  formatText : ∀ s spec, format (text s) spec = formatString digit s spec
  xidStart : Char → Bool
  xidContinue : Char → Bool
  startLetter : ∀ c, c = '_' ∨ xidStart c = true → digit c = none ∧ c ≠ '.' ∧ c ≠ '['
  continueLetter : ∀ c, xidContinue c = true → c ≠ '.' ∧ c ≠ '['
  asciiStart : ∀ c : Char, c.isAlpha = true → xidStart c = true
  asciiContinue : ∀ c : Char, c = '_' ∨ c.isAlphanum = true → xidContinue c = true

variable {O : Type} (objects : PythonObjects O) (values : String → Option String)

def isIdentifier : Text → Bool
  | [] => false
  | c::rest => (c == '_' || objects.xidStart c) && rest.all objects.xidContinue

def fieldObject (name : Text) : Option O :=
  let first := name.takeWhile (fun c => c != '.' && c != '[')
  let rest := name.dropWhile (fun c => c != '.' && c != '[')
  if first.all (fun c => (objects.digit c).isSome) then none
  else (values (String.ofList first)).bind fun value =>
    if rest = [] then some (objects.text value.toList) else objects.follow (objects.text value.toList) rest

def convert (conversion : Option Char) (object : O) : Option O :=
  match conversion with
  | none => some object
  | some 's' => (objects.str object).map objects.text
  | some 'r' => (objects.repr object).map objects.text
  | some 'a' => (objects.ascii object).map objects.text
  | some _ => none

def fillSpec (build : Text → Option Text) (spec : Text) : Option Text :=
  if '{' ∈ spec then build spec else some spec

def renderField (build : Text → Option Text) (field : Field) : Option Text := do
  let object ← fieldObject objects values field.name
  let converted ← convert objects field.conversion object
  let spec ← fillSpec build field.spec
  objects.format converted spec

def renderPieces (build : Text → Option Text) : List Piece → Option Text
  | [] => some []
  | .char c::rest => (renderPieces build rest).map (c :: ·)
  | .field f::rest => do
    let shown ← renderField objects values build f
    let later ← renderPieces build rest
    some (shown ++ later)

def buildString : ℕ → Text → Option Text
  | 0,_ => none
  | depth+1,template => (parse template).bind (renderPieces objects values (buildString depth))

def formatMap (template : Text) : Option Text := buildString objects values 2 template

def fieldText (field : Field) : Option Text := renderField objects values (buildString objects values 1) field

def StringFormat.MakesUp (format : StringFormat) (s value : Text) : Prop :=
  ∃ precision ∈ format.precision, precision < s.length ∧ format.pad (s.take precision) = value

theorem padLength (format : StringFormat) (s : Text) :
    (format.pad s).length = max (format.width.getD 0) s.length := by
  unfold StringFormat.pad
  dsimp only
  simp only [List.length_append,List.length_replicate]
  split_ifs <;> omega

theorem applySame {format : StringFormat} {s value : Text} (longer : value.length ≤ s.length) :
    format.apply s = value ↔ (s = value ∧ format.Fits value.length) ∨ format.MakesUp s value := by
  unfold StringFormat.apply
  by_cases fits : format.Fits s.length
  · rw [if_pos fits]
    constructor
    · rintro rfl
      exact .inl ⟨rfl,fits⟩
    · rintro (⟨same,-⟩ | ⟨precision,given,cuts,-⟩)
      · exact same
      · exact absurd (fits.2 precision given) (by omega)
  · rw [if_neg fits]
    have noFit : ¬(s = value ∧ format.Fits value.length) := fun both => fits (both.1 ▸ both.2)
    cases given : format.precision with
    | none =>
      -- nothing is cut, so the text is padded
      have wide : s.length < format.width.getD 0 := by
        by_contra narrow
        refine fits ⟨fun width some => ?_,fun precision some => ?_⟩
        · rw [Option.mem_def.mp some,Option.getD_some] at narrow
          omega
        · rw [given] at some
          cases some
      refine ⟨fun same => ?_,fun either => ?_⟩
      · have length := congrArg List.length same
        rw [padLength,StringFormat.cut,given] at length
        dsimp only at length
        omega
      · rcases either with both | ⟨precision,some,-⟩
        · exact absurd both noFit
        · rw [given] at some
          cases some
    | some precision =>
      have cut : format.cut s = s.take precision := by
        unfold StringFormat.cut
        rw [given]
      rw [cut]
      by_cases cuts : precision < s.length
      · refine ⟨fun same => .inr ⟨precision,given,cuts,same⟩,fun either => ?_⟩
        rcases either with both | ⟨other,some,-,same⟩
        · exact absurd both noFit
        · rw [given] at some
          cases some
          exact same
      · have wide : s.length < format.width.getD 0 := by
          by_contra narrow
          refine fits ⟨fun width some => ?_,fun other some => ?_⟩
          · rw [Option.mem_def.mp some,Option.getD_some] at narrow
            omega
          · rw [given] at some
            cases some
            omega
        refine ⟨fun same => ?_,fun either => ?_⟩
        · have length := congrArg List.length same
          rw [padLength,List.length_take] at length
          omega
        · rcases either with both | ⟨other,some,less,-⟩
          · exact absurd both noFit
          · rw [given] at some
            cases some
            exact absurd less cuts

variable {objects values}

theorem identifierObject {name : Text} (identifier : isIdentifier objects name = true) :
    fieldObject objects values name =
      (values (String.ofList name)).map fun value => objects.text value.toList := by
  cases name with
  | nil => cases identifier
  | cons c rest =>
    obtain ⟨start,later⟩ := Bool.and_eq_true_iff.mp identifier
    obtain ⟨noDigit,noDot,noBracket⟩ := objects.startLetter c (by simpa using start)
    have plain : ∀ d ∈ c::rest, (d != '.' && d != '[') = true := by
      intro d mem
      rw [Bool.and_eq_true_iff,bne_iff_ne,bne_iff_ne]
      rcases List.mem_cons.mp mem with rfl | mem
      · exact ⟨noDot,noBracket⟩
      · exact objects.continueLetter d (List.all_eq_true.mp later d mem)
    unfold fieldObject
    dsimp only
    rw [List.takeWhile_eq_self_iff.mpr plain,List.dropWhile_eq_nil_iff.mpr plain,if_neg]
    · cases values (String.ofList (c::rest)) <;> rfl
    · rw [List.all_cons,noDigit]
      exact Bool.false_ne_true

variable (objects) in
def convertText (conversion : Option Char) (value : Text) : Option Text :=
  match conversion with
  | none | some 's' => some value
  | some 'r' => objects.repr (objects.text value)
  | some 'a' => objects.ascii (objects.text value)
  | some _ => none

def PlainConversion (conversion : Option Char) : Prop := conversion = none ∨ conversion = some 's'

theorem convertOfText (conversion : Option Char) (value : Text) :
    convert objects conversion (objects.text value) = (convertText objects conversion value).map objects.text := by
  unfold convert convertText
  split
  · rfl
  · simp [objects.strText]
  · rfl
  · rfl
  · rfl

theorem convertLonger {conversion : Option Char} {value converted : Text}
    (done : convertText objects conversion value = some converted) : value.length ≤ converted.length := by
  unfold convertText at done
  split at done
  · rw [Option.some.inj done]
  · rw [Option.some.inj done]
  · obtain ⟨shown,same,longer⟩ := objects.reprText value
    cases same.symm.trans done
    exact longer.le
  · obtain ⟨shown,same,longer⟩ := objects.asciiText value
    cases same.symm.trans done
    exact longer.le
  · cases done

theorem convertSame {conversion : Option Char} {value : Text} :
    convertText objects conversion value = some value ↔ PlainConversion conversion := by
  unfold convertText PlainConversion
  split
  · simp
  · simp
  · obtain ⟨shown,same,longer⟩ := objects.reprText value
    rw [same]
    refine iff_of_false (fun equal => ?_) (by decide)
    rw [Option.some.inj equal] at longer
    exact lt_irrefl _ longer
  · obtain ⟨shown,same,longer⟩ := objects.asciiText value
    rw [same]
    refine iff_of_false (fun equal => ?_) (by decide)
    rw [Option.some.inj equal] at longer
    exact lt_irrefl _ longer
  · rename_i other noS _ _
    refine iff_of_false (fun equal => (nomatch equal)) ?_
    rintro (missing | same)
    · cases missing
    · exact noS (Option.some.inj same)

variable (objects values) in
/- The field shows the value as it is: it converts nothing and its specification, once its
own fields are filled in, neither pads nor cuts, unless padding makes up for what is cut. -/
def Keeps (field : Field) (value : Text) : Prop :=
  ∃ spec format, fillSpec (buildString objects values 1) field.spec = some spec ∧
    stringSpec objects.digit spec = some format ∧
    (PlainConversion field.conversion ∧ format.Fits value.length ∨
      ∃ converted, convertText objects field.conversion value = some converted ∧ format.MakesUp converted value)

theorem fieldTextSteps {field : Field} {value shown : Text}
    (object : fieldObject objects values field.name = some (objects.text value)) :
    fieldText objects values field = some shown ↔ ∃ converted spec format,
      convertText objects field.conversion value = some converted ∧
      fillSpec (buildString objects values 1) field.spec = some spec ∧
      stringSpec objects.digit spec = some format ∧ format.apply converted = shown := by
  unfold fieldText renderField
  rw [object]
  simp only [bind,Option.bind_some,convertOfText,Option.bind_eq_some_iff,Option.map_eq_some_iff]
  constructor
  · rintro ⟨_,⟨converted,done,rfl⟩,spec,filled,shows⟩
    rw [objects.formatText] at shows
    obtain ⟨format,read,same⟩ := Option.map_eq_some_iff.mp shows
    exact ⟨converted,spec,format,done,filled,read,same⟩
  · rintro ⟨converted,spec,format,done,filled,read,same⟩
    refine ⟨_,⟨converted,done,rfl⟩,spec,filled,?_⟩
    rw [objects.formatText]
    exact Option.map_eq_some_iff.mpr ⟨format,read,same⟩

theorem fieldTextSame {field : Field} {value : Text}
    (object : fieldObject objects values field.name = some (objects.text value)) :
    fieldText objects values field = some value ↔ Keeps objects values field value := by
  rw [fieldTextSteps object]
  constructor
  · rintro ⟨converted,spec,format,done,filled,read,same⟩
    refine ⟨spec,format,filled,read,?_⟩
    rcases (applySame (convertLonger done)).mp same with ⟨rfl,fits⟩ | makesUp
    · exact .inl ⟨convertSame.mp done,fits⟩
    · exact .inr ⟨converted,done,makesUp⟩
  · rintro ⟨spec,format,filled,read,⟨plain,fits⟩ | ⟨converted,done,makesUp⟩⟩
    · exact ⟨value,spec,format,convertSame.mpr plain,filled,read,(applySame le_rfl).mpr (.inl ⟨rfl,fits⟩)⟩
    · exact ⟨converted,spec,format,done,filled,read,(applySame (convertLonger done)).mpr (.inr makesUp)⟩

def Transparent (digit : Char → Option ℕ) (field : Field) : Prop :=
  PlainConversion field.conversion ∧
    ∃ format, stringSpec digit field.spec = some format ∧ format.width.getD 0 = 0 ∧ format.precision = none

theorem keepsEvery {field : Field} (simple : '{' ∉ field.spec) :
    (∀ value, Keeps objects values field value) ↔ Transparent objects.digit field := by
  have filled : fillSpec (buildString objects values 1) field.spec = some field.spec := if_neg simple
  constructor
  · intro keeps
    obtain ⟨spec,format,same,read,either⟩ := keeps []
    cases filled.symm.trans same
    have width : format.width.getD 0 = 0 := by
      rcases either with ⟨-,fits⟩ | ⟨converted,-,precision,-,-,padded⟩
      · cases given : format.width with
        | none => rfl
        | some width => exact Nat.le_zero.mp (fits.1 width given)
      · have length := congrArg List.length padded
        rw [padLength,List.length_nil] at length
        omega
    have precision : format.precision = none := by
      cases given : format.precision with
      | none => rfl
      | some precision =>
        -- a value longer than the precision is cut and never padded
        obtain ⟨spec,other,same,again,either⟩ := keeps (List.replicate (precision + 1) 'x')
        cases filled.symm.trans same
        cases read.symm.trans again
        rcases either with ⟨-,fits⟩ | ⟨converted,-,cut,some,-,padded⟩
        · have bound := fits.2 precision given
          rw [List.length_replicate] at bound
          omega
        · cases given.symm.trans some
          have length := congrArg List.length padded
          rw [padLength,width,List.length_take,List.length_replicate] at length
          omega
    rcases either with ⟨plain,-⟩ | ⟨converted,-,cut,some,-⟩
    · exact ⟨plain,format,read,width,precision⟩
    · rw [precision] at some
      cases some
  · rintro ⟨plain,format,read,width,precision⟩ value
    refine ⟨field.spec,format,filled,read,.inl ⟨plain,fun wide given => ?_,fun cut given => ?_⟩⟩
    · rw [Option.mem_def.mp given,Option.getD_some] at width
      omega
    · rw [precision] at given
      cases given

theorem bareTransparent (name : Text) : Transparent digit ⟨name,none,[]⟩ :=
  ⟨.inl rfl,⟨' ','<',none,none⟩,rfl,rfl,rfl⟩

/-! The whole text. -/

def valueText (values : String → Option String) (field : Field) : Text :=
  ((values (String.ofList field.name)).getD "").toList

def filledIn (values : String → Option String) : List Piece → Text
  | [] => []
  | .char c::rest => c :: filledIn values rest
  | .field f::rest => valueText values f ++ filledIn values rest

theorem filledLiteral (values : String → Option String) (s : Text) (rest : List Piece) :
    filledIn values (s.map .char ++ rest) = s ++ filledIn values rest := by
  induction s with
  | nil => rfl
  | cons c tail ih => exact congrArg (c :: ·) ih

theorem renderFilledIn {build : Text → Option Text} {pieces : List Piece}
    (kept : ∀ f ∈ fieldsOf pieces, renderField objects values build f = some (valueText values f)) :
    renderPieces objects values build pieces = some (filledIn values pieces) := by
  induction pieces with
  | nil => rfl
  | cons piece rest ih =>
    cases piece with
    | char c =>
      unfold renderPieces
      rw [ih kept]
      rfl
    | field f =>
      have here := kept f List.mem_cons_self
      have later := ih fun g mem => kept g (List.mem_cons_of_mem _ mem)
      unfold renderPieces
      rw [here,later]
      rfl

end OpenHoundOkta.FormatStrings
