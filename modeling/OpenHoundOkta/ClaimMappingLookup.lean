import OpenHoundOkta.SamlApplicationRows
import Mathlib.Data.Prod.Lex
import Mathlib.Order.WithBot
import OpenHoundOkta.Library.KeyedRows
import OpenHoundOkta.Library.DigitTexts

/-! `OktaLookup.saml_claim_mappings` on the stored rows of `saml_claim_mapping_rows`. The
order of the rows is kept in their ids alone: a number printed at the end, which the query
cuts off and casts back. The database stores the rows in any order. -/
namespace OpenHoundOkta.ClaimMappingLookup
open PythonText JsonValues SamlApplicationRows KeyedRows DigitTexts

inductive SqlValue where
  | null
  | text (value : String)
  | bool (value : Bool)
  deriving DecidableEq, Repr

def SqlValue.ofText (value : Option String) : SqlValue := (value.map text).getD null
def SqlValue.ofBool (value : Option Bool) : SqlValue := (value.map bool).getD null

inductive Column where
  | id | appId | appName | appLabel | claimName | mappingType | mappingOrigin | claimType
  | sourceProperty | expression | nameIdFormat | format | formatWasOmitted | nameFormat
  | nameFormatWasOmitted
  deriving DecidableEq, Repr

def Column.name : Column → String
  | id => "id"
  | appId => "app_id"
  | appName => "app_name"
  | appLabel => "app_label"
  | claimName => "claim_name"
  | mappingType => "mapping_type"
  | mappingOrigin => "mapping_origin"
  | claimType => "claim_type"
  | sourceProperty => "source_property"
  | expression => "expression"
  | nameIdFormat => "name_id_format"
  | format => "format"
  | formatWasOmitted => "format_was_omitted"
  | nameFormat => "name_format"
  | nameFormatWasOmitted => "name_format_was_omitted"

def cell (row : ClaimMapping) : Column → SqlValue
  | .id => .text row.id
  | .appId => .text row.appId
  | .appName => .text row.appName
  | .appLabel => .text row.appLabel
  | .claimName => .text row.claimName
  | .mappingType => .text row.mappingType
  | .mappingOrigin => .text row.mappingOrigin
  | .claimType => .text row.claimType
  | .sourceProperty => .ofText row.sourceProperty
  | .expression => .ofText row.expression
  | .nameIdFormat => .ofText row.nameIdFormat
  | .format => .ofText row.format
  | .formatWasOmitted => .ofBool row.formatWasOmitted
  | .nameFormat => .ofText row.nameFormat
  | .nameFormatWasOmitted => .ofBool row.nameFormatWasOmitted

/- An older collection can lack a column, but then it stores no value of it. -/
structure ClaimMappingTable where
  columns : List String
  rows : List ClaimMapping
  described : ∀ row ∈ rows, ∀ column : Column, column.name ∉ columns → cell row column = .null

def availableColumns (table : Option ClaimMappingTable) : List String :=
  (table.map ClaimMappingTable.columns).getD []

def storedRows (table : Option ClaimMappingTable) : List ClaimMapping :=
  (table.map ClaimMappingTable.rows).getD []

def requiredColumns : List Column :=
  [.id,.appId,.claimName,.mappingType,.claimType,.expression]

def selectedColumns (available : List String) : List Column :=
  [Column.id,.claimName,.mappingType,.mappingOrigin,.claimType,.sourceProperty,.expression,
    .nameIdFormat,.format,.formatWasOmitted,.nameFormat,.nameFormatWasOmitted].filter
      (fun column => column.name ∈ available)

def selectedRow (available : List String) (row : ClaimMapping) : List (String × SqlValue) :=
  (selectedColumns available).map (fun column => (column.name,cell row column))

/- The empty text and a number past INTEGER cast to NULL, which sorts last. -/
def tryCastInteger (digits : Text) : WithTop ℕ :=
  if digits ≠ [] ∧ Nat.ofDigitChars 10 digits 0 ≤ 2147483647 then
    WithTop.some (Nat.ofDigitChars 10 digits 0)
  else ⊤

def orderKey (id : String) : WithTop ℕ ×ₗ String := toLex (tryCastInteger (trailingDigits id.toList),id)

def samlClaimMappings (table : Option ClaimMappingTable) (appId : String) : List (List (String × SqlValue)) :=
  match table with
  | none => []
  | some t =>
    if ∀ column ∈ requiredColumns, column.name ∈ t.columns then
      (selectOrdered (fun row => row.appId = appId) (fun row => orderKey row.id) t.rows).map
        (selectedRow t.columns)
    else []

variable {text : JsonText} {app : SamlApplication}

structure Belongs (app : SamlApplication) (row : ClaimMapping) : Prop where
  owner : row.appId = app.id
  expressed : row.expression.isSome = true

theorem nameIdBelongs {s : SamlSignOn} {index : Nat} {row : ClaimMapping}
    (mem : row ∈ nameIdMapping app s index) : Belongs app row := by
  unfold nameIdMapping at mem
  dsimp only at mem
  split at mem
  · cases mem
  · rw [List.mem_singleton.mp mem]
    exact ⟨rfl,rfl⟩

theorem unexpressed {statement : List (String × Json)} (none : statementExpression text statement = none)
    (keys : List String) : statementValue text statement keys = .none := by
  have empty : statement = [] := by
    unfold statementExpression at none
    split at none
    · cases none
    · by_contra something
      rw [if_pos something] at none
      cases none
  rw [empty,statementValue,List.findSome?_eq_none_iff]
  intro key _
  rfl

theorem attributeBelongs {index : Nat} {mappingType : String} {statement : List (String × Json)}
    {row : ClaimMapping} (mem : row ∈ attributeMapping text app index mappingType statement) :
    Belongs app row := by
  unfold attributeMapping at mem
  dsimp only at mem
  split at mem
  · cases mem
  · rename_i something
    rw [List.mem_singleton.mp mem]
    refine ⟨rfl,?_⟩
    rw [Option.isSome_iff_ne_none]
    intro none
    exact something ⟨none,unexpressed none _⟩

theorem mapStatementsBelong {rows : List ClaimMapping} (before : ∀ row ∈ rows, Belongs app row)
    (statements : List (String × List (String × Json))) :
    ∀ row ∈ mapStatements text app rows statements, Belongs app row := by
  induction statements generalizing rows with
  | nil => exact before
  | cons statement rest ih =>
    apply ih
    intro row mem
    rcases List.mem_append.mp mem with old | new
    · exact before row old
    · exact attributeBelongs new

theorem rowsBelong : ∀ row ∈ samlClaimMappingRows text app, Belongs app row := by
  unfold samlClaimMappingRows
  split
  · exact mapStatementsBelong (fun row mem => nameIdBelongs mem) _
  · intro row mem
    cases mem

theorem printedLast (before : String) (n : Nat) :
    trailingDigits (before ++ ":" ++ n.repr).toList = n.repr.toList := by
  have colon : ":".toList = [':'] := by decide
  rw [String.toList_append,String.toList_append,colon,List.append_assoc,List.singleton_append]
  exact trailingDigitsAfter (by decide) _ (printedDigits n)

theorem orderKeyOf (appId : String) {index : Nat} (small : index < 2 ^ 31) :
    orderKey (samlClaimMappingId appId index) =
      toLex (WithTop.some index,samlClaimMappingId appId index) := by
  have tail : trailingDigits (samlClaimMappingId appId index).toList = index.repr.toList :=
    printedLast _ index
  have nonempty : index.repr.toList ≠ [] := by
    intro nothing
    exact Nat.repr_ne_empty (String.toList_inj.mp nothing)
  rw [orderKey,tail,tryCastInteger,printedRead,if_pos ⟨nonempty,by omega⟩]

theorem keysRise {appId : String} {i j : Nat} (less : i < j) (small : j < 2 ^ 31) :
    orderKey (samlClaimMappingId appId i) < orderKey (samlClaimMappingId appId j) := by
  rw [orderKeyOf appId (by omega),orderKeyOf appId small]
  exact Prod.Lex.toLex_lt_toLex.mpr (.inl (WithTop.coe_lt_coe.mpr less))

theorem rowsRise (few : (samlClaimMappingRows text app).length < 2 ^ 31) :
    (samlClaimMappingRows text app).Pairwise (fun a b => orderKey a.id < orderKey b.id) := by
  have placed : Placed app (samlClaimMappingRows text app) := claimMappingRowsPlaced app
  have rising : (List.range (samlClaimMappingRows text app).length).Pairwise
      (fun i j => orderKey (samlClaimMappingId app.id i) < orderKey (samlClaimMappingId app.id j)) := by
    refine List.pairwise_lt_range.imp_of_mem ?_
    intro i j _ there less
    exact keysRise less ((List.mem_range.mp there).trans few)
  have ids : ((samlClaimMappingRows text app).map ClaimMapping.id).Pairwise
      (fun a b => orderKey a < orderKey b) := by
    rw [placed]
    exact List.pairwise_map.mpr rising
  rw [List.pairwise_map] at ids
  exact ids

theorem requiredGiven {row : ClaimMapping} (belongs : Belongs app row) :
    ∀ column ∈ requiredColumns, cell row column ≠ .null := by
  have expressed : SqlValue.ofText row.expression ≠ .null := by
    obtain ⟨value,some⟩ := Option.isSome_iff_exists.mp belongs.expressed
    rw [some]
    exact fun null => SqlValue.noConfusion null
  unfold requiredColumns
  simp only [List.forall_mem_cons,cell,ne_eq,reduceCtorEq,not_false_eq_true,true_and]
  exact ⟨expressed,List.forall_mem_nil _⟩

theorem requiredStored {table : ClaimMappingTable} {row : ClaimMapping} (belongs : Belongs app row)
    (mem : row ∈ table.rows) : ∀ column ∈ requiredColumns, column.name ∈ table.columns := by
  intro column required
  by_contra missing
  exact requiredGiven belongs column required (table.described row mem column missing)

theorem selectedApart {available : List String} (listed : Column.id.name ∈ available) {row other : ClaimMapping}
    (same : selectedRow available row = selectedRow available other) : row.id = other.id := by
  have mem : Column.id ∈ selectedColumns available :=
    List.mem_filter.mpr ⟨List.mem_cons_self,decide_eq_true listed⟩
  have cells := List.map_inj_left.mp same Column.id mem
  have texts := congrArg Prod.snd cells
  exact SqlValue.text.inj texts

section Stored
variable {table : ClaimMappingTable} {others : List ClaimMapping}

theorem selectionReadBack (elsewhere : ∀ row ∈ others, row.appId ≠ app.id)
    (stored : table.rows.Perm (samlClaimMappingRows text app ++ others))
    (few : (samlClaimMappingRows text app).length < 2 ^ 31) :
    selectOrdered (fun row => row.appId = app.id) (fun row => orderKey row.id) table.rows =
      samlClaimMappingRows text app := by
  have kept : ∀ row ∈ samlClaimMappingRows text app, decide (row.appId = app.id) = true :=
    fun row mem => decide_eq_true (rowsBelong row mem).owner
  have left : ∀ row ∈ others, decide (row.appId = app.id) = false :=
    fun row mem => decide_eq_false (elsewhere row mem)
  exact selectedInOrder stored kept left (rowsRise few)

theorem requiredOfRow (stored : table.rows.Perm (samlClaimMappingRows text app ++ others)) {row : ClaimMapping}
    (mem : row ∈ samlClaimMappingRows text app) : ∀ column ∈ requiredColumns, column.name ∈ table.columns :=
  requiredStored (rowsBelong row mem) (stored.mem_iff.mpr (List.mem_append_left _ mem))

theorem tableReadBack (elsewhere : ∀ row ∈ others, row.appId ≠ app.id)
    (stored : table.rows.Perm (samlClaimMappingRows text app ++ others))
    (few : (samlClaimMappingRows text app).length < 2 ^ 31) :
    samlClaimMappings (some table) app.id = (samlClaimMappingRows text app).map (selectedRow table.columns) := by
  have selection := selectionReadBack elsewhere stored few
  unfold samlClaimMappings
  dsimp only
  cases rows : samlClaimMappingRows text app with
  | nil => rw [selection,rows,List.map_nil,ite_self]
  | cons row rest =>
    have here : row ∈ samlClaimMappingRows text app := rows ▸ List.mem_cons_self
    rw [if_pos (requiredOfRow stored here),selection,rows]

theorem readBackOnce (stored : table.rows.Perm (samlClaimMappingRows text app ++ others)) :
    ((samlClaimMappingRows text app).map (selectedRow table.columns)).Nodup := by
  cases rows : samlClaimMappingRows text app with
  | nil => exact List.nodup_nil
  | cons row rest =>
    have here : row ∈ samlClaimMappingRows text app := rows ▸ List.mem_cons_self
    have listed := requiredOfRow stored here .id List.mem_cons_self
    have distinct : ((samlClaimMappingRows text app).map ClaimMapping.id).Nodup := claimMappingIdsDistinct app
    rw [rows] at distinct
    exact List.pairwise_map.mpr ((List.pairwise_map.mp distinct).imp
      (fun different same => different (selectedApart listed same)))

end Stored

/- Every row of the application is read once, in the order it was built in. -/
theorem claimMappingsReadBack (text : JsonText) (app : SamlApplication) (table : Option ClaimMappingTable)
    (others : List ClaimMapping) (elsewhere : ∀ row ∈ others, row.appId ≠ app.id)
    (stored : (storedRows table).Perm (samlClaimMappingRows text app ++ others))
    (few : (samlClaimMappingRows text app).length < 2 ^ 31) :
    samlClaimMappings table app.id =
        (samlClaimMappingRows text app).map (selectedRow (availableColumns table)) ∧
      (samlClaimMappings table app.id).Nodup := by
  cases table with
  | none =>
    have none : samlClaimMappingRows text app = [] :=
      (List.append_eq_nil_iff.mp (List.nil_perm.mp stored)).1
    rw [none]
    exact ⟨rfl,List.nodup_nil⟩
  | some table =>
    have read := tableReadBack elsewhere stored few
    refine ⟨read,?_⟩
    rw [read]
    exact readBackOnce stored

/-! Twelve statements of an application whose id ends in digits, stored backwards. -/

def numberedStatement (index : Nat) : List (String × Json) :=
  [("name",.string ("claim" ++ index.repr)),("values",.array [.string "user.department"])]

def numberedApplication : SamlApplication where
  id := "0oa12"
  name := "custom"
  label := "Custom"
  status := "ACTIVE"
  signOnMode := some "SAML_2_0"
  settings := []
  signOn := some {
    ssoAcsUrl := none
    ssoAcsUrlOverride := none
    spIssuer := none
    audience := none
    audienceOverride := none
    recipient := none
    recipientOverride := none
    destination := none
    destinationOverride := none
    acsEndpoints := []
    assertionEncryption := none
    slo := none
    idpIssuer := none
    subjectNameIdTemplate := some "$\x7buser.userName\x7d"
    subjectNameIdFormat := none
    attributeStatements := (List.range 12).map numberedStatement
    configuredAttributeStatements := [] }
  samlMetadataEntityId := none
  credentials := none

def storedText : JsonText := ⟨fun _ => "",fun _ => "\x7b\x7d"⟩

def otherMapping : ClaimMapping where
  id := samlClaimMappingId "0oa1" 2
  appId := "0oa1"
  appName := "other"
  appLabel := "Other"
  claimName := "NameID"
  mappingType := "name_id"
  mappingOrigin := "subject_name_id"
  claimType := "name_id"
  sourceProperty := none
  expression := some "user.login"
  nameIdFormat := none
  format := some unspecifiedNameIdFormat
  formatWasOmitted := some true
  nameFormat := none
  nameFormatWasOmitted := none

def everyColumn : List String :=
  [Column.id,.appId,.appName,.appLabel,.claimName,.mappingType,.mappingOrigin,.claimType,
    .sourceProperty,.expression,.nameIdFormat,.format,.formatWasOmitted,.nameFormat,
    .nameFormatWasOmitted].map Column.name

theorem everyColumnListed (column : Column) : column.name ∈ everyColumn := by
  apply List.mem_map_of_mem
  cases column <;> decide

def storedBackwards : ClaimMappingTable where
  columns := everyColumn
  rows := otherMapping::(samlClaimMappingRows storedText numberedApplication).reverse
  described _ _ column missing := absurd (everyColumnListed column) missing

theorem thirteenRows : (samlClaimMappingRows storedText numberedApplication).length = 13 := by
  decide +kernel

theorem thirteenReadBack : (samlClaimMappings (some storedBackwards) "0oa12").length = 13 ∧
    samlClaimMappings (some storedBackwards) "0oa12" =
      (samlClaimMappingRows storedText numberedApplication).map (selectedRow everyColumn) := by
  have stored : (storedRows (some storedBackwards)).Perm
      (samlClaimMappingRows storedText numberedApplication ++ [otherMapping]) :=
    ((List.reverse_perm _).cons otherMapping).trans (List.perm_append_singleton _ _).symm
  have elsewhere : ∀ row ∈ [otherMapping], row.appId ≠ numberedApplication.id := by decide
  have read := claimMappingsReadBack storedText numberedApplication (some storedBackwards) [otherMapping]
    elsewhere stored (by rw [thirteenRows]; decide)
  refine ⟨?_,read.1⟩
  have lengths := congrArg List.length read.1
  rw [List.length_map,thirteenRows] at lengths
  exact lengths

end OpenHoundOkta.ClaimMappingLookup
