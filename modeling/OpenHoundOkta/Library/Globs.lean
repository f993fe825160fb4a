import Mathlib.Data.List.Infix

/-! Patterns of `fnmatch` made of characters, `?` and `*`. A star matches every text,
slashes included. Of several patterns the first that matches is taken. -/
namespace OpenHoundOkta.Globs

inductive Piece (α : Type) where
  | exactly (a : α)
  | one
  | many
  deriving DecidableEq, Repr

variable {α : Type} [DecidableEq α]

def globMatches : List (Piece α) → List α → Bool
  | [],text => text.isEmpty
  | .exactly a::pieces,text =>
    match text with
    | [] => false
    | b::rest => a == b && globMatches pieces rest
  | .one::pieces,text =>
    match text with
    | [] => false
    | _::rest => globMatches pieces rest
  | .many::pieces,text => text.tails.any (globMatches pieces)

theorem manyMatches (text : List α) : globMatches [.many] text = true := by
  rw [globMatches,List.any_eq_true]
  exact ⟨[],(List.mem_tails _ _).mpr List.nil_suffix,rfl⟩

theorem stemMatches (stem text : List α) :
    globMatches (stem.map .exactly ++ [.many]) text = stem.isPrefixOf text := by
  induction stem generalizing text with
  | nil => simp [manyMatches]
  | cons a stem ih =>
    cases text with
    | nil => rfl
    | cons b rest => simp [globMatches,List.isPrefixOf,ih]

def headVerdict : List α → List α → Option Bool
  | [],_ => some true
  | _::_,[] => none
  | a::stem,b::head => if a = b then headVerdict stem head else some false

theorem headDecides {stem head : List α} {verdict : Bool} (decided : headVerdict stem head = some verdict)
    (rest : List α) : stem.isPrefixOf (head ++ rest) = verdict := by
  induction stem generalizing head with
  | nil => simpa [headVerdict] using decided
  | cons a stem ih =>
    cases head with
    | nil => simp [headVerdict] at decided
    | cons b head =>
      rw [headVerdict] at decided
      split at decided
      · rename_i same
        simp [same,ih decided]
      · rename_i different
        simp [List.isPrefixOf,different,← Option.some.inj decided]

section FirstMatch
variable {ι : Type} {stem : ι → List α} {patterns : List ι} {text : List α} {found : ι}

def NarrowFirst (stem : ι → List α) (patterns : List ι) : Prop :=
  patterns.Pairwise (fun early late => stem early <+: stem late → stem early = stem late)

theorem firstIsLongest (narrowFirst : NarrowFirst stem patterns)
    (first : patterns.find? (fun p => (stem p).isPrefixOf text) = some found) {other : ι}
    (listed : other ∈ patterns) (begins : stem other <+: text) : stem other <+: stem found := by
  obtain ⟨holds,before,after,split,passed⟩ := List.find?_eq_some_iff_append.mp first
  have foundBegins : stem found <+: text := List.isPrefixOf_iff_prefix.mp holds
  rw [split] at listed
  rcases List.mem_append.mp listed with earlier | here
  · have refused := passed other earlier
    rw [List.isPrefixOf_iff_prefix.mpr begins] at refused
    contradiction
  rcases List.mem_cons.mp here with same | later
  · rw [same]
  · unfold NarrowFirst at narrowFirst
    rw [split] at narrowFirst
    have ordered := (List.pairwise_cons.mp (List.pairwise_append.mp narrowFirst).2.1).1 other later
    rcases List.prefix_or_prefix_of_prefix begins foundBegins with shorter | longer
    · exact shorter
    · rw [ordered longer]

def headMatch (stem : ι → List α) (head : List α) : List ι → Option ι
  | [] => none
  | p::patterns =>
    match headVerdict (stem p) head with
    | some true => some p
    | some false => headMatch stem head patterns
    | none => none

theorem headMatchFinds {head : List α} (settled : headMatch stem head patterns = some found) (rest : List α) :
    patterns.find? (fun p => (stem p).isPrefixOf (head ++ rest)) = some found := by
  induction patterns with
  | nil => simp [headMatch] at settled
  | cons p patterns ih =>
    rw [headMatch] at settled
    split at settled
    · rename_i here
      rw [List.find?_cons,headDecides here rest,← settled]
    · rename_i passed
      rw [List.find?_cons,headDecides passed rest]
      exact ih settled
    · contradiction

end FirstMatch

end OpenHoundOkta.Globs
