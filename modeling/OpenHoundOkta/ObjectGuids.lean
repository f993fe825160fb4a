import OpenHoundOkta.Library.HexTexts

/-! The object GUID of a group that was imported from Active Directory. Its external id is the
base64 text of the GUID's bytes, the first three fields little-endian; any other text is shown
as it is. -/
namespace OpenHoundOkta.ObjectGuids
open Base64 HexTexts

/- `uuid.UUID(bytes_le=...)` swaps the first three fields. -/
def swapped (bytes : List Byte) : List Byte :=
  (bytes.take 4).reverse ++ ((bytes.drop 4).take 2).reverse ++ ((bytes.drop 6).take 2).reverse ++ bytes.drop 8

def uuidOfBytesLe (bytes : List Byte) : Option Nat :=
  if bytes.length ≠ 16 then none else some (ofBytes (swapped bytes))

def uuidText (n : Nat) : String :=
  let hex := hexDigits 32 n
  String.ofList (hex.take 8 ++ '-' :: (hex.drop 8).take 4 ++ '-' :: (hex.drop 12).take 4 ++
    '-' :: (hex.drop 16).take 4 ++ '-' :: hex.drop 20)

def decodeText (externalId : String) : String :=
  match (decode externalId.toList).bind uuidOfBytesLe with
  | some uuid => uuidText uuid
  | none => externalId

def decodeObjectGuid (externalId : Option String) : Option String := externalId.map decodeText

structure Guid where
  bytes : List Byte
  sixteen : bytes.length = 16

def Guid.text (guid : Guid) : String := uuidText (ofBytes (swapped guid.bytes))

example : (⟨[173,225,204,84,120,114,163,76,177,70,25,236,111,144,211,74],rfl⟩ : Guid).text =
    "54cce1ad-7278-4ca3-b146-19ec6f90d34a" := by decide

def StandsFor (externalId : String) (guid : Guid) : Prop :=
  (∃ low, externalId.toList = spelled low guid.bytes) ∨ externalId = guid.text

theorem swappedTwice {bytes : List Byte} (sixteen : bytes.length = 16) : swapped (swapped bytes) = bytes := by
  obtain ⟨a,b,c,d,e,f,g,h,rest,rfl⟩ : ∃ a b c d e f g h rest, bytes = a::b::c::d::e::f::g::h::rest := by
    rcases bytes with _ | ⟨a,_ | ⟨b,_ | ⟨c,_ | ⟨d,_ | ⟨e,_ | ⟨f,_ | ⟨g,_ | ⟨h,rest⟩⟩⟩⟩⟩⟩⟩⟩
    all_goals first | exact ⟨a,b,c,d,e,f,g,h,rest,rfl⟩ | cases sixteen
  rfl

theorem swappedLength {bytes : List Byte} (sixteen : bytes.length = 16) : (swapped bytes).length = 16 := by
  simp only [swapped,List.length_append,List.length_reverse,List.length_take,List.length_drop]
  omega

theorem uuidTextDigits (n : Nat) : (uuidText n).toList.filter (· ≠ '-') = hexDigits 32 n := by
  have plain : ∀ part : List Char, (∀ c ∈ part, c ∈ hexDigits 32 n) → part.filter (· ≠ '-') = part := by
    intro part inside
    exact List.filter_eq_self.mpr (fun c mem => decide_eq_true (hexDigitsPlain 32 n c (inside c mem)))
  have field (start : Nat) : (((hexDigits 32 n).drop start).take 4).filter (· ≠ '-') =
      ((hexDigits 32 n).drop start).take 4 :=
    plain _ (fun c mem => List.mem_of_mem_drop (List.mem_of_mem_take mem))
  have split (start : Nat) : ((hexDigits 32 n).drop start).take 4 ++ (hexDigits 32 n).drop (start + 4) =
      (hexDigits 32 n).drop start := by
    rw [← List.drop_drop]
    exact List.take_append_drop 4 _
  have dash (part : List Char) : ('-' :: part).filter (· ≠ '-') = part.filter (· ≠ '-') :=
    List.filter_cons_of_neg (by decide)
  rw [uuidText,String.toList_ofList]
  simp only [List.filter_append,dash,field]
  rw [plain _ (fun c mem => List.mem_of_mem_take mem),plain _ (fun c mem => List.mem_of_mem_drop mem)]
  simp only [List.append_assoc]
  rw [split 16,split 12,split 8]
  exact List.take_append_drop 8 _

theorem textSame {guid other : Guid} (same : guid.text = other.text) : guid.bytes = other.bytes := by
  have digits := congrArg (fun text : String => text.toList.filter (· ≠ '-')) same
  dsimp only [Guid.text] at digits
  rw [uuidTextDigits,uuidTextDigits] at digits
  have first := hexDigitsBytes (swapped guid.bytes)
  have second := hexDigitsBytes (swapped other.bytes)
  rw [swappedLength guid.sixteen] at first
  rw [swappedLength other.sixteen] at second
  have swaps := hexPairsSame (first.symm.trans (digits.trans second))
  rw [← swappedTwice guid.sixteen,swaps,swappedTwice other.sixteen]

theorem dashInText (guid : Guid) : '-' ∈ guid.text.toList := by
  rw [Guid.text,uuidText,String.toList_ofList]
  simp

theorem textUnread (guid : Guid) : decode guid.text.toList = none :=
  decodeForeign (show sextet '-' = none by decide) (by decide) (dashInText guid)

theorem spelledShown {externalId : String} {guid : Guid} {low : Nat} (text : externalId.toList = spelled low guid.bytes) :
    decodeText externalId = guid.text := by
  rw [decodeText,text,decodeSpelled,Option.bind_some,uuidOfBytesLe,if_neg (not_not.mpr guid.sixteen)]
  rfl

theorem standsForShown {externalId : String} {guid : Guid} (stands : StandsFor externalId guid) :
    decodeText externalId = guid.text := by
  rcases stands with ⟨low,text⟩ | rfl
  · exact spelledShown text
  · rw [decodeText,textUnread]
    rfl

theorem shownCases (externalId : String) :
    (∃ guid : Guid, (∃ low, externalId.toList = spelled low guid.bytes) ∧ decodeText externalId = guid.text) ∨
      decodeText externalId = externalId := by
  cases read : (decode externalId.toList).bind uuidOfBytesLe with
  | none =>
    refine .inr ?_
    rw [decodeText,read]
  | some uuid =>
    obtain ⟨bytes,ran,found⟩ := Option.bind_eq_some_iff.mp read
    have sixteen : bytes.length = 16 := by
      by_contra other
      rw [uuidOfBytesLe,if_pos other] at found
      cases found
    obtain ⟨low,text⟩ := (decodeGiven (by rw [sixteen]; decide)).mp ran
    exact .inl ⟨⟨bytes,sixteen⟩,⟨low,text⟩,@spelledShown externalId ⟨bytes,sixteen⟩ low text⟩

theorem shownAlikeIff (externalId other : String) : decodeText externalId = decodeText other ↔
    externalId = other ∨ ∃ guid, StandsFor externalId guid ∧ StandsFor other guid := by
  constructor
  · intro same
    rcases shownCases externalId with ⟨guid,text,shown⟩ | plain
    · rcases shownCases other with ⟨second,otherText,otherShown⟩ | otherPlain
      · have bytes := textSame (shown.symm.trans (same.trans otherShown))
        exact .inr ⟨guid,.inl text,.inl (bytes ▸ otherText)⟩
      · exact .inr ⟨guid,.inl text,.inr (otherPlain.symm.trans (same.symm.trans shown))⟩
    · rcases shownCases other with ⟨guid,text,shown⟩ | otherPlain
      · exact .inr ⟨guid,.inr (plain.symm.trans (same.trans shown)),.inl text⟩
      · exact .inl (plain.symm.trans (same.trans otherPlain))
  · rintro (rfl | ⟨guid,stands,otherStands⟩)
    · rfl
    · rw [standsForShown stands,standsForShown otherStands]

structure GuidContract : Prop where
  shown : ∀ externalId guid, StandsFor externalId guid → decodeObjectGuid (some externalId) = some guid.text
  kept : ∀ externalId, (∀ guid, ¬StandsFor externalId guid) → decodeObjectGuid (some externalId) = some externalId
  stable : ∀ externalId, decodeObjectGuid (decodeObjectGuid externalId) = decodeObjectGuid externalId
  alike : ∀ externalId other, decodeObjectGuid (some externalId) = decodeObjectGuid (some other) ↔
    externalId = other ∨ ∃ guid, StandsFor externalId guid ∧ StandsFor other guid

theorem objectGuidsKept : GuidContract := by
  constructor
  case shown =>
    intro externalId guid stands
    exact congrArg some (standsForShown stands)
  case kept =>
    intro externalId none
    rcases shownCases externalId with ⟨guid,text,-⟩ | plain
    · exact absurd (.inl text) (none guid)
    · exact congrArg some plain
  case stable =>
    intro externalId
    cases externalId with
    | none => rfl
    | some given =>
      refine congrArg some ?_
      rcases shownCases given with ⟨guid,-,shown⟩ | plain
      · rw [shown]
        exact standsForShown (.inr rfl)
      · rw [plain,plain]
  case alike =>
    intro externalId other
    exact (Option.some_inj).trans (shownAlikeIff externalId other)

end OpenHoundOkta.ObjectGuids
