import OpenHoundOkta.SendRequest
import OpenHoundOkta.Library.Holders

/-! Permits of the endpoint families and of the organization over whole runs. A call
holds them between two places of the code; what a step takes or gives is the difference
between the place it leaves and the place it reaches. -/
namespace OpenHoundOkta.SlotConservation
open Runs Holders SendRequest

def holdsFamily : Pc → Bool
  | .loopHead | .returned | .raised => false
  | _ => true

def holdsOrg : Pc → Bool
  | .loopHead | .familyDeadline | .orgDeadline | .orgGate | .acquireFailed false
  | .releasingFamily _ | .returned | .raised => false
  | _ => true

def inSend : Pc → Bool
  | .sending | .sent _ => true
  | _ => false

structure Accounted (effect : Effect) (before after : Pc) : Prop where
  family : (holdsFamily after).toNat + effect.givesFamily = (holdsFamily before).toNat + effect.takesFamily
  org : (holdsOrg after).toNat + effect.givesOrg = (holdsOrg before).toNat + effect.takesOrg
  send : (inSend after).toNat + effect.ends = (inSend before).toNat + effect.begins

structure Slotted (pc : Pc) : Prop where
  family : holdsFamily pc = true
  org : holdsOrg pc = true
  idle : inSend pc = false

theorem slottedMove {before after : Pc} (left : Slotted before) (reached : Slotted after) :
    Accounted .nothing before after := by
  refine ⟨?_,?_,?_⟩
  · rw [left.family,reached.family]
    rfl
  · rw [left.org,reached.org]
    rfl
  · rw [left.idle,reached.idle]
    rfl

theorem slottedHandled (st : CallState) (failure : Failure) : Slotted (handled st failure).pc := by
  cases failure with
  | httpError statusCode =>
    unfold handled
    dsimp only
    split <;> exact ⟨rfl,rfl,rfl⟩
  | transport readTimeout => exact ⟨rfl,rfl,rfl⟩
  | other => exact ⟨rfl,rfl,rfl⟩

theorem slottedRetryable (client : Client) (st : CallState) (statusCode : Option Nat) :
    Slotted (retryableOr client st statusCode).pc := by
  unfold retryableOr
  cases statusCode with
  | none => exact ⟨rfl,rfl,rfl⟩
  | some statusCode =>
    dsimp only
    split
    · split <;> exact ⟨rfl,rfl,rfl⟩
    · exact ⟨rfl,rfl,rfl⟩

theorem slottedStatus (statusCode : Nat) : Slotted (statusChecked statusCode) := by
  unfold statusChecked
  split <;> exact ⟨rfl,rfl,rfl⟩

theorem slottedRetry (statusCode : Nat) : Slotted (if statusCode = 429 then .rateLimited else .outage) := by
  split <;> exact ⟨rfl,rfl,rfl⟩

theorem releasedAccounted (after : After) :
    Accounted .giveFamily (.releasingFamily after) (afterRelease after) := by
  cases after <;> exact ⟨rfl,rfl,rfl⟩

def ClassificationReturns (pc : Pc) (action : Action) : Prop :=
  pc = .classifying → ∀ failure, action ≠ .raises failure

theorem advanceAccounted {client : Client} {st next : CallState} {action : Action} {effect : Effect}
    (returns : ClassificationReturns st.pc action)
    (taken : advance client st action = some (effect,next)) : Accounted effect st.pc next.pc := by
  unfold advance at taken
  generalize here : st.pc = pc at returns taken ⊢
  split at taken <;> try contradiction
  all_goals cases taken
  -- the place reached is written out, computed from the answer, or the same place again
  all_goals first
    | exact ⟨rfl,rfl,rfl⟩
    | exact slottedMove ⟨rfl,rfl,rfl⟩ (slottedStatus _)
    | exact slottedMove ⟨rfl,rfl,rfl⟩ (slottedHandled _ _)
    | exact slottedMove ⟨rfl,rfl,rfl⟩ (slottedRetryable _ _ _)
    | exact slottedMove ⟨rfl,rfl,rfl⟩ (slottedRetry _)
    | exact releasedAccounted _
    | exact absurd rfl (returns rfl _)
    | (rw [here]; exact ⟨rfl,rfl,rfl⟩)

theorem familyOneWay (effect : Effect) : effect.givesFamily = 0 ∨ effect.takesFamily = 0 := by
  cases effect <;> decide

theorem orgOneWay (effect : Effect) : effect.givesOrg = 0 ∨ effect.takesOrg = 0 := by
  cases effect <;> decide

theorem Accounted.familyHeld {effect : Effect} {before after : Pc} (accounted : Accounted effect before after) :
    effect.givesFamily ≤ (holdsFamily before).toNat := by
  have account := accounted.family
  have afterOne := Bool.toNat_le (holdsFamily after)
  rcases familyOneWay effect with none | none <;> omega

theorem Accounted.orgHeld {effect : Effect} {before after : Pc} (accounted : Accounted effect before after) :
    effect.givesOrg ≤ (holdsOrg before).toNat := by
  have account := accounted.org
  rcases orgOneWay effect with none | none <;> omega

variable {Family Call : Type} [DecidableEq Family] [DecidableEq Call]

structure Balanced (pc : Pc) (ledger : Ledger) : Prop where
  family : ledger.familyAcquired = ledger.familyReleased + (holdsFamily pc).toNat
  org : ledger.orgAcquired = ledger.orgReleased + (holdsOrg pc).toNat

variable [Fintype Call]

def callsAt (throttles : Throttles Family Call) (f : Family) (places : Pc → Bool)
    (call : Call → CallState) : Nat :=
  holders (fun c st => decide (throttles.family c = f) && places st.pc) call

def orgHolders (call : Call → CallState) : Nat := holders (fun _ st => holdsOrg st.pc) call

theorem callsAtOwn (throttles : Throttles Family Call) (places : Pc → Bool) (call : Call → CallState)
    (c : Call) (next : CallState) :
    callsAt throttles (throttles.family c) places (Function.update call c next) + (places (call c).pc).toNat =
      callsAt throttles (throttles.family c) places call + (places next.pc).toNat := by
  have moved := holdersUpdate
    (fun d st => decide (throttles.family d = throttles.family c) && places st.pc) call c next
  simp only [decide_true,Bool.true_and] at moved
  exact moved

theorem callsAtOther {throttles : Throttles Family Call} {f : Family} {c : Call}
    (other : throttles.family c ≠ f) (places : Pc → Bool) (call : Call → CallState) (next : CallState) :
    callsAt throttles f places (Function.update call c next) = callsAt throttles f places call := by
  have moved := holdersUpdate
    (fun d st => decide (throttles.family d = f) && places st.pc) call c next
  simp only [other,decide_false,Bool.false_and,Bool.toNat_false,add_zero] at moved
  exact moved

theorem callsAtOwnCall (throttles : Throttles Family Call) (places : Pc → Bool) (call : Call → CallState)
    (c : Call) : (places (call c).pc).toNat ≤ callsAt throttles (throttles.family c) places call := by
  have counted := holdersOwn
    (fun d st => decide (throttles.family d = throttles.family c) && places st.pc) call c
  simp only [decide_true,Bool.true_and] at counted
  exact counted

structure Counted (throttles : Throttles Family Call) (s : System Family Call) : Prop where
  family : ∀ f, s.familyInUse f = callsAt throttles f holdsFamily s.call
  familyLimit : ∀ f, s.familyInUse f ≤ throttles.maxConcurrency f
  org : s.orgInUse = orgHolders s.call
  orgLimit : s.orgInUse ≤ throttles.orgConcurrency
  active : ∀ f, s.activeHttpRequests f = callsAt throttles f inSend s.call
  ledger : ∀ c, Balanced (s.call c).pc (s.ledger c)
  once : s.overReleased = false

omit [Fintype Call] in
theorem stepParts {throttles : Throttles Family Call} {s t : System Family Call} {event : Event Call}
    (taken : Step throttles s event t) : ∃ effect next performed,
      advance (throttles.client event.1) (s.call event.1) event.2 = some (effect,next) ∧
      perform throttles s event.1 effect = some performed ∧
      t = { performed with call := Function.update performed.call event.1 next } := by
  simp only [Step,step,bind,pure,Option.bind_eq_some_iff] at taken
  obtain ⟨⟨effect,next⟩,moved,performed,done,same⟩ := taken
  exact ⟨effect,next,performed,moved,done,(Option.some.inj same).symm⟩

structure Held (throttles : Throttles Family Call) (s : System Family Call) (c : Call)
    (effect : Effect) : Prop where
  family : effect.givesFamily ≤ s.familyInUse (throttles.family c)
  org : effect.givesOrg ≤ s.orgInUse

omit [Fintype Call] [DecidableEq Family] [DecidableEq Call] in
theorem heldOnce {throttles : Throttles Family Call} {s : System Family Call} {c : Call} {effect : Effect}
    (held : Held throttles s c effect) : overReleases throttles s c effect = false := by
  obtain ⟨family,org⟩ := held
  cases effect with
  | giveFamily =>
    have used : 1 ≤ s.familyInUse (throttles.family c) := family
    exact decide_eq_false (by omega)
  | giveOrg =>
    have used : 1 ≤ s.orgInUse := org
    exact decide_eq_false (by omega)
  | nothing | takeFamily | takeOrg | beginHttp | endHttp => rfl

omit [Fintype Call] [DecidableEq Call] [DecidableEq Family] in
theorem enabledFamily {throttles : Throttles Family Call} {s : System Family Call} {c : Call}
    {effect : Effect} (may : enabled throttles s c effect = true)
    (limit : s.familyInUse (throttles.family c) ≤ throttles.maxConcurrency (throttles.family c)) :
    s.familyInUse (throttles.family c) + effect.takesFamily ≤
      throttles.maxConcurrency (throttles.family c) := by
  cases effect with
  | takeFamily => exact of_decide_eq_true may
  | nothing | giveFamily | takeOrg | giveOrg | beginHttp | endHttp => exact limit

omit [Fintype Call] [DecidableEq Call] [DecidableEq Family] in
theorem enabledOrg {throttles : Throttles Family Call} {s : System Family Call} {c : Call}
    {effect : Effect} (may : enabled throttles s c effect = true)
    (limit : s.orgInUse ≤ throttles.orgConcurrency) :
    s.orgInUse + effect.takesOrg ≤ throttles.orgConcurrency := by
  cases effect with
  | takeOrg => exact of_decide_eq_true may
  | nothing | takeFamily | giveFamily | giveOrg | beginHttp | endHttp => exact limit

theorem countedHeld {throttles : Throttles Family Call} {s : System Family Call} (counted : Counted throttles s)
    {c : Call} {effect : Effect} {next : CallState} (accounted : Accounted effect (s.call c).pc next.pc) :
    Held throttles s c effect := by
  have familyHeld := accounted.familyHeld
  have orgHeld := accounted.orgHeld
  have familyOwn := callsAtOwnCall throttles holdsFamily s.call c
  have orgOwn := holdersOwn (fun (_ : Call) st => holdsOrg st.pc) s.call c
  constructor
  · rw [counted.family]
    omega
  · rw [counted.org]
    exact le_trans orgHeld orgOwn

omit [Fintype Call] in
theorem performParts {throttles : Throttles Family Call} {s performed : System Family Call} {c : Call}
    {effect : Effect} (done : perform throttles s c effect = some performed) :
    enabled throttles s c effect = true ∧ performed = { s with
      familyInUse := Function.update s.familyInUse (throttles.family c)
        (s.familyInUse (throttles.family c) + effect.takesFamily - effect.givesFamily)
      orgInUse := s.orgInUse + effect.takesOrg - effect.givesOrg
      activeHttpRequests := Function.update s.activeHttpRequests (throttles.family c)
        (s.activeHttpRequests (throttles.family c) + effect.begins - effect.ends)
      overReleased := s.overReleased || overReleases throttles s c effect
      ledger := Function.update s.ledger c ((s.ledger c).enters effect) } := by
  unfold perform at done
  split at done
  next may => exact ⟨may,(Option.some.inj done).symm⟩
  next => contradiction

omit [Fintype Call] [DecidableEq Family] [DecidableEq Call] in
theorem balancedEnters {effect : Effect} {before after : Pc} {ledger : Ledger}
    (balanced : Balanced before ledger) (accounted : Accounted effect before after) :
    Balanced after (ledger.enters effect) := by
  have family := balanced.family
  have org := balanced.org
  have familyAccount := accounted.family
  have orgAccount := accounted.org
  constructor
  · unfold Ledger.enters
    dsimp only
    omega
  · unfold Ledger.enters
    dsimp only
    omega

theorem stepCounted {throttles : Throttles Family Call} {s t : System Family Call} {event : Event Call}
    (returns : ClassificationReturns (s.call event.1).pc event.2) (taken : Step throttles s event t)
    (counted : Counted throttles s) : Counted throttles t := by
  obtain ⟨effect,next,performed,moved,done,rfl⟩ := stepParts taken
  obtain ⟨c,action⟩ := event
  have accounted := advanceAccounted returns moved
  have held := countedHeld counted accounted
  obtain ⟨may,rfl⟩ := performParts done
  dsimp only at *
  constructor
  case family =>
    intro f
    dsimp only
    by_cases own : throttles.family c = f
    · subst own
      have account := accounted.family
      have count := callsAtOwn throttles holdsFamily s.call c next
      have inUse := counted.family (throttles.family c)
      rw [Function.update_self]
      omega
    · rw [Function.update_of_ne (Ne.symm own),callsAtOther own,counted.family f]
  case familyLimit =>
    intro f
    dsimp only
    by_cases own : throttles.family c = f
    · subst own
      have limit := enabledFamily may (counted.familyLimit _)
      rw [Function.update_self]
      omega
    · rw [Function.update_of_ne (Ne.symm own)]
      exact counted.familyLimit f
  case org =>
    have account := accounted.org
    have count := holdersUpdate (fun (_ : Call) st => holdsOrg st.pc) s.call c next
    have inUse := counted.org
    have heldOrg := held.org
    unfold orgHolders at *
    dsimp only at *
    omega
  case orgLimit =>
    have limit := enabledOrg may counted.orgLimit
    dsimp only
    omega
  case active =>
    intro f
    dsimp only
    by_cases own : throttles.family c = f
    · subst own
      have account := accounted.send
      have count := callsAtOwn throttles inSend s.call c next
      have active := counted.active (throttles.family c)
      rw [Function.update_self]
      omega
    · rw [Function.update_of_ne (Ne.symm own),callsAtOther own,counted.active f]
  case ledger =>
    intro d
    dsimp only
    by_cases own : d = c
    · subst own
      rw [Function.update_self,Function.update_self]
      exact balancedEnters (counted.ledger d) accounted
    · rw [Function.update_of_ne own,Function.update_of_ne own]
      exact counted.ledger d
  case once =>
    dsimp only
    rw [counted.once,heldOnce held]
    rfl

omit [DecidableEq Call] in
theorem initialCounted (throttles : Throttles Family Call) : Counted throttles (initial Family Call) where
  family f := (holdersNone (fun _ => Bool.and_false _)).symm
  familyLimit _ := Nat.zero_le _
  org := (holdersNone (fun _ => rfl)).symm
  orgLimit := Nat.zero_le _
  active f := by
    have idle : callsAt throttles f inSend (initial Family Call).call = 0 :=
      holdersNone (fun _ => Bool.and_false _)
    rw [idle]
    rfl
  ledger _ := ⟨rfl,rfl⟩
  once := rfl

def Rests (pc : Pc) : Prop := pc = .loopHead ∨ pc = .returned ∨ pc = .raised

structure SlotsConserved (throttles : Throttles Family Call) (s : System Family Call) : Prop where
  familyLimit : ∀ f, s.familyInUse f ≤ throttles.maxConcurrency f
  orgLimit : s.orgInUse ≤ throttles.orgConcurrency
  matched : ∀ c, Rests (s.call c).pc → (s.ledger c).familyAcquired = (s.ledger c).familyReleased ∧
    (s.ledger c).orgAcquired = (s.ledger c).orgReleased
  notTwice : ∀ c, (s.ledger c).familyReleased ≤ (s.ledger c).familyAcquired ∧
    (s.ledger c).orgReleased ≤ (s.ledger c).orgAcquired
  bounded : s.overReleased = false
  inFlight : ∀ f, s.activeHttpRequests f = callsAt throttles f inSend s.call
  waiting : ∀ c, (s.call c).pc = .familyDeadline ∨ (s.call c).pc = .orgDeadline →
    (s.ledger c).orgAcquired = (s.ledger c).orgReleased
  allFree : (∀ c, Rests (s.call c).pc) → (∀ f, s.familyInUse f = 0) ∧ s.orgInUse = 0

theorem restsHolds {pc : Pc} (rests : Rests pc) : holdsFamily pc = false ∧ holdsOrg pc = false := by
  rcases rests with rfl | rfl | rfl <;> exact ⟨rfl,rfl⟩

omit [DecidableEq Call] in
theorem countedConserved {throttles : Throttles Family Call} {s : System Family Call}
    (counted : Counted throttles s) : SlotsConserved throttles s where
  familyLimit := counted.familyLimit
  orgLimit := counted.orgLimit
  matched c rests := by
    obtain ⟨family,org⟩ := counted.ledger c
    obtain ⟨noFamily,noOrg⟩ := restsHolds rests
    rw [noFamily] at family
    rw [noOrg] at org
    exact ⟨family,org⟩
  notTwice c := by
    obtain ⟨family,org⟩ := counted.ledger c
    constructor <;> omega
  bounded := counted.once
  inFlight := counted.active
  waiting c waits := by
    have org := (counted.ledger c).org
    rcases waits with here | here
    · rw [here] at org
      exact org
    · rw [here] at org
      exact org
  allFree rest := by
    constructor
    · intro f
      rw [counted.family]
      apply holdersNone
      intro c
      rw [(restsHolds (rest c)).1,Bool.and_false]
    · rw [counted.org]
      exact holdersNone (fun c => (restsHolds (rest c)).2)

def SlotsAlwaysConserved (throttles : Throttles Family Call)
    (ok : System Family Call → Event Call → Prop) : Prop :=
  ∀ s, Run (Step throttles) ok (initial Family Call) s → SlotsConserved throttles s

def ClassificationsReturn (s : System Family Call) (event : Event Call) : Prop :=
  ClassificationReturns (s.call event.1).pc event.2

theorem slotsConserved (throttles : Throttles Family Call) :
    SlotsAlwaysConserved throttles ClassificationsReturn := by
  intro s run
  have keeps : ∀ s event t, ClassificationsReturn s event → Step throttles s event t →
      Counted throttles s → Counted throttles t :=
    fun _ _ _ returns taken counted => stepCounted returns taken counted
  exact countedConserved (run.invariant keeps (initialCounted throttles))

def oneCall : Throttles Unit Unit where
  orgConcurrency := 1
  maxConcurrency _ := 1
  family _ := ()
  client _ := ⟨fun statusCode => statusCode = 429,3,3⟩

/- The only call ends with an exception from the classification of its 401. -/
theorem classificationLeaks : ¬SlotsAlwaysConserved oneCall Anything := by
  intro conserved
  have started : Run (Step oneCall) Anything (initial Unit Unit) (initial Unit Unit) := .start _
  have admitted := ((((started.take ((),.runs) rfl).take ((),.passes) rfl).take ((),.passes) rfl).take
    ((),.runs) rfl).take ((),.books true) rfl
  have answered := ((admitted.take ((),.runs) rfl).take ((),.answers (.response 401)) rfl).take ((),.runs) rfl
  have ended := ((answered.take ((),.runs) rfl).take ((),.runs) rfl).take ((),.raises .other) rfl
  have matched := (conserved _ ended).matched () (.inr (.inr rfl))
  exact absurd matched.2 (by decide)

end OpenHoundOkta.SlotConservation
