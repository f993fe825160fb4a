import Mathlib.Data.List.Basic

/-! Graphs whose nodes and edges carry a kind, under a schema that says which kinds of nodes
an edge of a kind may join. An edge fits if the nodes it joins are there. -/
namespace OpenHoundOkta.TypedGraphs

variable {κ ρ ι : Type}

structure Node (κ ι : Type) where
  kind : κ
  id : ι
  deriving DecidableEq, Repr

structure Edge (ρ ι : Type) where
  kind : ρ
  start : ι
  target : ι
  deriving DecidableEq, Repr

structure Declaration (κ ρ : Type) where
  start : κ
  kind : ρ
  target : κ
  deriving DecidableEq, Repr

def Fits (schema : List (Declaration κ ρ)) (nodes : List (Node κ ι)) (edge : Edge ρ ι) : Prop :=
  ∃ d ∈ schema, d.kind = edge.kind ∧ ⟨d.start,edge.start⟩ ∈ nodes ∧ ⟨d.target,edge.target⟩ ∈ nodes

def Reached (schema : List (Declaration κ ρ)) (edges : List (Edge ρ ι)) (node : Node κ ι) : Prop :=
  ∃ edge ∈ edges, edge.target = node.id ∧ ∃ d ∈ schema, d.kind = edge.kind ∧ d.target = node.kind

variable {schema : List (Declaration κ ρ)} {nodes more : List (Node κ ι)} {edges others : List (Edge ρ ι)}

theorem fitsOf {d : Declaration κ ρ} (declared : d ∈ schema) {start target : ι}
    (first : ⟨d.start,start⟩ ∈ nodes) (last : ⟨d.target,target⟩ ∈ nodes) :
    Fits schema nodes ⟨d.kind,start,target⟩ := ⟨d,declared,rfl,first,last⟩

theorem fitsSole {d : Declaration κ ρ} (declared : d ∈ schema)
    (sole : ∀ other ∈ schema, other.kind = d.kind → other = d) {start target : ι} :
    Fits schema nodes ⟨d.kind,start,target⟩ ↔ ⟨d.start,start⟩ ∈ nodes ∧ ⟨d.target,target⟩ ∈ nodes := by
  constructor
  · rintro ⟨other,mem,kind,first,last⟩
    cases sole other mem kind
    exact ⟨first,last⟩
  · rintro ⟨first,last⟩
    exact fitsOf declared first last

theorem fitsMore {edge : Edge ρ ι} (fits : Fits schema nodes edge) (kept : nodes ⊆ more) :
    Fits schema more edge := by
  obtain ⟨d,declared,kind,first,last⟩ := fits
  exact ⟨d,declared,kind,kept first,kept last⟩

theorem reachedBy {d : Declaration κ ρ} (declared : d ∈ schema) {start target : ι}
    (mem : ⟨d.kind,start,target⟩ ∈ edges) : Reached schema edges ⟨d.target,target⟩ :=
  ⟨_,mem,rfl,d,declared,rfl,rfl⟩

theorem reachedMore {node : Node κ ι} (reached : Reached schema edges node) (kept : edges ⊆ others) :
    Reached schema others node := by
  obtain ⟨edge,mem,target,declared⟩ := reached
  exact ⟨edge,kept mem,target,declared⟩

end OpenHoundOkta.TypedGraphs
