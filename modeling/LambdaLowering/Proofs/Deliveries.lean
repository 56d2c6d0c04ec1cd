import LambdaLowering.Proofs.LoweringSteps

/-! What a consumer is sent, and what it makes of it.

A consumer may drop any method and fail on any event. What it is sent is followed part by part: if a
part of a run comes to its end, a whole word has been sent, and if it fails, a word that is cut
short.
-/

set_option autoImplicit false

namespace LambdaLowering

variable {S T U α γ : Type}

/-- What a consumer makes of an event. -/
inductive Reception where
  | accepted
  | dropped
  | failed (error : Error)
  deriving DecidableEq, Repr

structure Delivery where
  event : Event
  reception : Reception
  deriving DecidableEq, Repr

def Event.reception : Event → Bool → Reception
  | .methodHeader _, false => .dropped
  | _, _ => .accepted

/-- The same consumer, which also notes what it is sent and what it makes of it. -/
def Sink.noting (consumer : Sink S) : Sink (List Delivery × S) where
  receive event := fun (noted, state) =>
    match consumer.receive event state with
    | .ok kept state => .ok kept (noted ++ [⟨event, event.reception kept⟩], state)
    | .error error state => .error error (noted ++ [⟨event, .failed error⟩], state)

structure Offer where
  method : Method
  kept : Bool

/-- A method that is kept is sent whole. Of one that is dropped the consumer sees the header. -/
def Offer.deliveries (offer : Offer) : List Delivery :=
  if offer.kept then offer.method.events.map (⟨·, .accepted⟩)
  else [⟨.methodHeader offer.method.header, .dropped⟩]

/-! ## Words cut short -/

/-- What was sent of a word before a failure. Either the factory for a call site was not to be had,
or the consumer failed on the event that was due, which is the last one that it was sent. -/
inductive CutShort (error : Error) : List Delivery → List Delivery → Prop
  | stopped (factory : Factory) {rest : List Delivery} :
    CutShort error [] (⟨.instruction factory.call, .accepted⟩ :: rest)
  | refused {event : Event} {reception : Reception} {rest : List Delivery} :
    CutShort error [⟨event, .failed error⟩] (⟨event, reception⟩ :: rest)
  | later {delivery : Delivery} {sent word : List Delivery} (cut : CutShort error sent word) :
    CutShort error (delivery :: sent) (delivery :: word)

namespace CutShort

variable {error : Error} {sent word : List Delivery}

theorem append_left (cut : CutShort error sent word) (part : List Delivery) :
    CutShort error (part ++ sent) (part ++ word) := by
  induction part with
  | nil => exact cut
  | cons delivery part ih => exact .later ih

theorem append_right (cut : CutShort error sent word) (rest : List Delivery) :
    CutShort error sent (word ++ rest) := by
  induction cut with
  | stopped factory => exact .stopped factory
  | refused => exact .refused
  | later _ ih => exact .later ih

theorem map_event_prefix (cut : CutShort error sent word) :
    sent.map Delivery.event <+: word.map Delivery.event := by
  induction cut with
  | stopped => exact List.nil_prefix
  | refused => simp
  | later _ ih => simpa using ih

/-- The consumer fails on nothing but the last event, and then for the reason that the run has. -/
theorem eq_nil_of_failed (cut : CutShort error sent word)
    (unfailing : ∀ delivery ∈ word, ∀ other, delivery.reception ≠ .failed other)
    {before after : List Delivery} {delivery : Delivery} {other : Error}
    (split : sent = before ++ delivery :: after) (failed : delivery.reception = .failed other) :
    after = [] ∧ other = error := by
  induction cut generalizing before with
  | stopped => simp at split
  | refused =>
    cases before with
    | nil =>
      cases split
      cases failed
      exact ⟨rfl, rfl⟩
    | cons _ before => simp at split
  | later _ ih =>
    cases before with
    | nil =>
      cases split
      exact absurd failed (unfailing _ List.mem_cons_self other)
    | cons _ before =>
      exact ih (fun one member => unfailing one (List.mem_cons_of_mem _ member))
        (List.cons.inj split).2

end CutShort

/-! ## Runs and what they send -/

/-- A run sends words. From what was noted before, it comes to an end with a word after which
something holds, or it fails and has sent a part of a word. -/
inductive Sends (noted : T → List Delivery) (before : List Delivery)
    (words : List Delivery → Prop) (ends : α → T → List Delivery → Prop) :
    EStateM.Result Error T α → Prop
  | ok {value : α} {reached : T} {word : List Delivery} (sent : noted reached = before ++ word)
    (ended : ends value reached word) : Sends noted before words ends (.ok value reached)
  | error {error : Error} {reached : T} {part word : List Delivery}
    (sent : noted reached = before ++ part) (cut : CutShort error part word)
    (whole : words word) : Sends noted before words ends (.error error reached)

def notedBehind (state : U × List Delivery × S) : List Delivery := state.2.1

namespace Sends

variable {noted : T → List Delivery} {before : List Delivery} {words : List Delivery → Prop}
variable {ends : α → T → List Delivery → Prop}

theorem mono {more : List Delivery → Prop} {ends' : α → T → List Delivery → Prop}
    {outcome : EStateM.Result Error T α} (sends : Sends noted before words ends outcome)
    (weaker : ∀ word, words word → more word)
    (weakerEnd : ∀ value reached word, ends value reached word → ends' value reached word) :
    Sends noted before more ends' outcome := by
  cases sends with
  | ok sent ended => exact .ok sent (weakerEnd _ _ _ ended)
  | error sent cut whole => exact .error sent cut (weaker _ whole)

theorem behind {ends : α → List Delivery × S → List Delivery → Prop}
    {outcome : EStateM.Result Error (List Delivery × S) α}
    (sends : Sends Prod.fst before words ends outcome) (outer : U) :
    Sends notedBehind before words
      (fun value reached word => ∃ state, reached = (outer, state) ∧ ends value state word)
      (Action.onState (outer, ·) outcome) := by
  cases sends with
  | ok sent ended => exact .ok sent ⟨_, rfl, ended⟩
  | error sent cut whole => exact .error sent cut whole

theorem bind {parts : List Delivery → Prop} {middle : γ → T → List Delivery → Prop}
    {first : Action T γ} {next : γ → Action T α} {state : T}
    (firsts : Sends noted before parts middle (first state))
    (goesOn : ∀ part, parts part → ∃ rest, words (part ++ rest))
    (rests : ∀ value reached part, middle value reached part →
      Sends noted (noted reached) (fun rest => words (part ++ rest))
        (fun value reached rest => ends value reached (part ++ rest)) (next value reached)) :
    Sends noted before words ends ((first >>= next) state) := by
  rw [Action.bind_apply]
  generalize first state = outcome at firsts
  cases firsts with
  | error sent cut part =>
    -- A word of the first part is the beginning of a whole one, so what is cut short of it is too.
    obtain ⟨rest, whole⟩ := goesOn _ part
    exact .error sent (cut.append_right rest) whole
  | @ok value reached word sent ended =>
    have later := rests value reached word ended
    simp only
    generalize next value reached = outcome at later
    cases later with
    | ok sentLater ended => exact .ok (by rw [sentLater, sent, List.append_assoc]) ended
    | error sentLater cut whole =>
      exact .error (by rw [sentLater, sent, List.append_assoc]) (cut.append_left word) whole

end Sends

/-! ## What one method sends -/

section Consumer

variable (consumer : Sink S) (noted : List Delivery) (state : S)

theorem receive_noting_sends (event : Event) (plain : ∀ kept, event.reception kept = .accepted) :
    Sends Prod.fst noted (fun word => word = [⟨event, .accepted⟩])
      (fun _ _ word => word = [⟨event, .accepted⟩])
      (consumer.noting.receive event (noted, state)) := by
  simp only [Sink.noting]
  cases consumer.receive event state with
  | ok kept after => exact .ok (by rw [plain]) rfl
  | error error after => exact .error rfl .refused rfl

theorem send_noting_sends (event : Event) (plain : ∀ kept, event.reception kept = .accepted) :
    Sends Prod.fst noted (fun word => word = [⟨event, .accepted⟩])
      (fun _ _ word => word = [⟨event, .accepted⟩])
      (consumer.noting.send event (noted, state)) := by
  apply (receive_noting_sends consumer noted state event plain).bind
  · rintro _ rfl
    exact ⟨[], rfl⟩
  · rintro _ reached _ rfl
    exact .ok (List.append_nil _).symm rfl

theorem receive_methodHeader_noting_sends (header : MethodHeader) :
    Sends Prod.fst noted (fun word => word = [⟨.methodHeader header, .dropped⟩])
      (fun kept _ word => word = [⟨.methodHeader header, if kept then .accepted else .dropped⟩])
      (consumer.noting.receive (.methodHeader header) (noted, state)) := by
  simp only [Sink.noting]
  cases consumer.receive (.methodHeader header) state with
  | ok kept after => exact .ok rfl (by cases kept <;> rfl)
  | error error after => exact .error rfl .refused rfl

theorem Offer.deliveries_kept (method : Method) :
    (Offer.mk method true).deliveries =
      ⟨.methodHeader method.header, .accepted⟩ ::
        (method.code.map (⟨.instruction ·, .accepted⟩) ++ [⟨.methodEnd, .accepted⟩]) := by
  simp [Offer.deliveries, Method.events]

theorem forM_send_noting_sends (code : List Instruction) :
    Sends Prod.fst noted (fun word => word = code.map (⟨.instruction ·, .accepted⟩))
      (fun _ _ word => word = code.map (⟨.instruction ·, .accepted⟩))
      (code.forM (fun one => consumer.noting.send (.instruction one)) (noted, state)) := by
  induction code generalizing noted state with
  | nil => exact .ok (List.append_nil _).symm rfl
  | cons one code ih =>
    rw [Action.forM_cons]
    apply (send_noting_sends consumer noted state (.instruction one) fun _ => rfl).bind
    · rintro _ rfl
      exact ⟨_, rfl⟩
    · rintro _ ⟨noted, state⟩ _ rfl
      exact (ih noted state).mono (fun _ same => same ▸ rfl) (fun _ _ _ same => same ▸ rfl)

theorem streamTo_noting_sends (method : Method) :
    Sends Prod.fst noted (fun word => ∃ kept, word = (Offer.mk method kept).deliveries)
      (fun _ _ word => ∃ kept, word = (Offer.mk method kept).deliveries)
      (method.streamTo consumer.noting (noted, state)) := by
  unfold Method.streamTo
  apply (receive_methodHeader_noting_sends consumer noted state method.header).bind
  · rintro _ rfl
    exact ⟨[], false, rfl⟩
  · rintro kept ⟨noted, state⟩ _ rfl
    cases kept with
    | false => exact .ok (List.append_nil _).symm ⟨false, rfl⟩
    | true =>
      simp only [↓reduceIte]
      apply (forM_send_noting_sends consumer noted state method.code).bind
      · rintro _ rfl
        exact ⟨[⟨.methodEnd, .accepted⟩], true, (Offer.deliveries_kept method).symm⟩
      · rintro _ ⟨noted, state⟩ _ rfl
        refine (send_noting_sends consumer noted state .methodEnd fun _ => rfl).mono ?_ ?_
        · rintro _ rfl
          exact ⟨true, (Offer.deliveries_kept method).symm⟩
        · rintro _ _ _ rfl
          exact ⟨true, (Offer.deliveries_kept method).symm⟩

end Consumer

end LambdaLowering
