import Mathlib.Data.List.Basic

/-! Iterating a generator to its end: the values it yielded, in order, and the
exception that stopped it, if one did. Values yielded before the exception stay
yielded. Nothing here names a particular exception or value type. -/
namespace OpenHoundOkta.Generators

theorem bindOk {ε α β : Type} {first : Except ε α} {next : α → Except ε β} {b : β} :
    (first >>= next) = .ok b ↔ ∃ a, first = .ok a ∧ next a = .ok b := by
  cases first with
  | error e => simp [bind,Except.bind]
  | ok a => simp [bind,Except.bind]

theorem mapMPairs {ε α β : Type} {f : α → Except ε β} {xs : List α} {ys : List β} (ran : xs.mapM f = .ok ys) :
    ∃ pairs : List (α × β), pairs.map Prod.fst = xs ∧ pairs.map Prod.snd = ys ∧ ∀ p ∈ pairs, f p.1 = .ok p.2 := by
  induction xs generalizing ys with
  | nil =>
    cases Except.ok.inj ran
    exact ⟨[],rfl,rfl,List.forall_mem_nil _⟩
  | cons x xs ih =>
    rw [List.mapM_cons] at ran
    obtain ⟨y,first,later⟩ := bindOk.mp ran
    obtain ⟨rest,others,last⟩ := bindOk.mp later
    cases Except.ok.inj last
    obtain ⟨pairs,values,results,each⟩ := ih others
    refine ⟨(x,y)::pairs,?_,?_,List.forall_mem_cons.mpr ⟨first,each⟩⟩
    · rw [List.map_cons,values]
    · rw [List.map_cons,results]

theorem mapMOk {ε α β : Type} {f : α → Except ε β} {xs : List α} {ys : List β} (ran : xs.mapM f = .ok ys) :
    (∀ x ∈ xs, ∃ y ∈ ys, f x = .ok y) ∧ ∀ y ∈ ys, ∃ x ∈ xs, f x = .ok y := by
  obtain ⟨pairs,rfl,rfl,each⟩ := mapMPairs ran
  refine ⟨?_,?_⟩
  · intro x mem
    obtain ⟨p,listed,rfl⟩ := List.mem_map.mp mem
    exact ⟨p.2,List.mem_map_of_mem listed,each p listed⟩
  · intro y mem
    obtain ⟨p,listed,rfl⟩ := List.mem_map.mp mem
    exact ⟨p.1,List.mem_map_of_mem listed,each p listed⟩

def Succeeds {ε α : Type} (value : Except ε α) : Prop := ∃ a, value = .ok a

section Succeeds
variable {ε α β : Type}

@[simp] theorem succeedsOk (a : α) : Succeeds (.ok a : Except ε α) := ⟨a,rfl⟩
@[simp] theorem succeedsPure (a : α) : Succeeds (pure a : Except ε α) := ⟨a,rfl⟩
@[simp] theorem succeedsError (e : ε) : ¬Succeeds (.error e : Except ε α) := fun ⟨_,ran⟩ => nomatch ran

theorem succeedsBind {first : Except ε α} {next : α → Except ε β} :
    Succeeds (first >>= next) ↔ ∃ a, first = .ok a ∧ Succeeds (next a) := by
  constructor
  · intro ⟨b,ran⟩
    obtain ⟨a,firstRan,nextRan⟩ := bindOk.mp ran
    exact ⟨a,firstRan,b,nextRan⟩
  · intro ⟨a,firstRan,b,nextRan⟩
    exact ⟨b,bindOk.mpr ⟨a,firstRan,nextRan⟩⟩

theorem succeedsFirst {first : Except ε α} {next : α → Except ε β} (total : ∀ a, Succeeds (next a)) :
    Succeeds (first >>= next) ↔ Succeeds first := by
  rw [succeedsBind]
  constructor
  · intro ⟨a,ran,_⟩
    exact ⟨a,ran⟩
  · intro ⟨a,ran⟩
    exact ⟨a,ran,total a⟩

theorem succeedsBoth {first : Except ε α} {second : Except ε β} {next : α → β → Except ε β}
    (total : ∀ a b, Succeeds (next a b)) :
    Succeeds (first >>= fun a => second >>= next a) ↔ Succeeds first ∧ Succeeds second := by
  rw [succeedsBind]
  constructor
  · intro ⟨a,ran,rest⟩
    exact ⟨⟨a,ran⟩,(succeedsFirst (total a)).mp rest⟩
  · intro ⟨⟨a,ran⟩,second⟩
    exact ⟨a,ran,(succeedsFirst (total a)).mpr second⟩

end Succeeds

structure Gen (ε α : Type) where
  yielded : List α
  raised : Option ε
  deriving DecidableEq, Repr

variable {ε α β : Type}

namespace Gen

def done : Gen ε α := ⟨[],none⟩

def yields (values : List α) : Gen ε α := ⟨values,none⟩

def fail (e : ε) : Gen ε α := ⟨[],some e⟩

def andThen (first second : Gen ε α) : Gen ε α :=
  match first.raised with
  | some _ => first
  | none => ⟨first.yielded ++ second.yielded,second.raised⟩

def eval (value : Except ε β) (rest : β → Gen ε α) : Gen ε α :=
  match value with
  | .error e => fail e
  | .ok b => rest b

def all : List (Gen ε α) → Gen ε α
  | [] => done
  | g :: rest => andThen g (all rest)

def forEach (values : List β) (body : β → Gen ε α) : Gen ε α := all (values.map body)

def map (f : α → β) (g : Gen ε α) : Gen ε β := ⟨g.yielded.map f,g.raised⟩

@[simp] theorem doneYielded : (done : Gen ε α).yielded = [] := rfl
@[simp] theorem doneRaised : (done : Gen ε α).raised = none := rfl
@[simp] theorem yieldsYielded (values : List α) : (yields values : Gen ε α).yielded = values := rfl
@[simp] theorem yieldsRaised (values : List α) : (yields values : Gen ε α).raised = none := rfl
@[simp] theorem failYielded (e : ε) : (fail e : Gen ε α).yielded = [] := rfl
@[simp] theorem evalOk (b : β) (rest : β → Gen ε α) : eval (.ok b) rest = rest b := rfl
@[simp] theorem evalError (e : ε) (rest : β → Gen ε α) : eval (.error e) rest = fail e := rfl
@[simp] theorem mapYielded (f : α → β) (g : Gen ε α) : (map f g).yielded = g.yielded.map f := rfl
@[simp] theorem mapRaised (f : α → β) (g : Gen ε α) : (map f g).raised = g.raised := rfl

theorem andThenClean {first second : Gen ε α} (clean : first.raised = none) :
    andThen first second = ⟨first.yielded ++ second.yielded,second.raised⟩ := by
  simp [andThen,clean]

theorem memAndThen {first second : Gen ε α} {x : α} :
    x ∈ (andThen first second).yielded ↔
      x ∈ first.yielded ∨ first.raised = none ∧ x ∈ second.yielded := by
  cases h : first.raised <;> simp [andThen,h]

theorem memEval {value : Except ε β} {rest : β → Gen ε α} {x : α} :
    x ∈ (eval value rest).yielded ↔ ∃ b, value = .ok b ∧ x ∈ (rest b).yielded := by
  cases value <;> simp

theorem memAll {gens : List (Gen ε α)} {x : α} (mem : x ∈ (all gens).yielded) :
    ∃ g ∈ gens, x ∈ g.yielded := by
  induction gens with
  | nil => simp [all] at mem
  | cons g rest ih =>
    rcases memAndThen.mp mem with here | ⟨_,later⟩
    · exact ⟨g,by simp,here⟩
    · obtain ⟨h,hm,hx⟩ := ih later
      exact ⟨h,List.mem_cons_of_mem _ hm,hx⟩

theorem allClean {gens : List (Gen ε α)} (clean : ∀ g ∈ gens, g.raised = none) :
    (all gens).raised = none ∧ (all gens).yielded = gens.flatMap yielded := by
  induction gens with
  | nil => exact ⟨rfl,rfl⟩
  | cons g rest ih =>
    have tail := ih (fun h hm => clean h (List.mem_cons_of_mem _ hm))
    rw [all,andThenClean (clean g (by simp))]
    exact ⟨tail.1,by simp [tail.2]⟩

theorem evalCleanIff {value : Except ε β} {rest : β → Gen ε α} :
    (eval value rest).raised = none ↔ ∃ b, value = .ok b ∧ (rest b).raised = none := by
  cases value with
  | error e => simp [fail]
  | ok b => simp

theorem andThenCleanIff {first second : Gen ε α} :
    (andThen first second).raised = none ↔ first.raised = none ∧ second.raised = none := by
  cases clean : first.raised <;> simp [andThen,clean]

theorem allCleanIff {gens : List (Gen ε α)} :
    (all gens).raised = none ↔ ∀ g ∈ gens, g.raised = none := by
  induction gens with
  | nil => simp [all]
  | cons g rest ih => rw [all,andThenCleanIff,ih,List.forall_mem_cons]

theorem mapAll (f : α → β) (gens : List (Gen ε α)) :
    map f (all gens) = all (gens.map (map f)) := by
  induction gens with
  | nil => rfl
  | cons g rest ih =>
    rw [List.map_cons,all,all,← ih]
    cases h : g.raised <;> simp [andThen,map,h]

end Gen
end OpenHoundOkta.Generators
