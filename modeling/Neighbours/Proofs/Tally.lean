import Neighbours.Proofs.Numbering

/-! Those a message is for. A dispatch is for the registrations that are there when it begins. However
handlers change the registry meanwhile, whatever else they dispatch and however they end, those invoked
for the message and those who wait for it together are always the ones it is for, each of them once. -/

namespace Neighbours

/-- Those a message is for: the registrations at its attachment point that accept it. -/
def Registry.audience (registry : Registry) (arrival : Arrival) : List Registration :=
  (registry.group arrival.point).filter (·.accepts arrival)

theorem Registry.Grouped.mem_audience_iff {registry : Registry} (h : registry.Grouped)
    {arrival : Arrival} {registration : Registration} :
    registration ∈ registry.audience arrival ↔
      (arrival.point, registration) ∈ registry.pairs ∧ registration.accepts arrival := by
  rw [audience, List.mem_filter, h.mem_group_iff]

theorem Registry.Grouped.nodup_audience {registry : Registry} (h : registry.Grouped)
    (arrival : Arrival) : (registry.audience arrival).Nodup :=
  (h.nodup_group arrival.point).filter _

/-- Who has been invoked for a message, and with which handle, if the event tells of that. -/
def Event.seenBy? (message : Nat) : Event → Option (Registration × Handle)
  | .invoked _ registration handle =>
    if handle.message = message then some (registration, handle) else none
  | _ => none

def Level.waitingFor (message : Nat) : Level → List Registration
  | .delivery ⟨handle, _, waiting, _⟩ => if handle.message = message then waiting else []
  | _ => []

/-- Those who wait for a message. -/
def waitingFor (message : Nat) (levels : List Level) : List Registration :=
  levels.flatMap (Level.waitingFor message)

theorem waitingFor_delivery (message : Nat) (delivery : Delivery) (rest : List Level) :
    waitingFor message (.delivery delivery :: rest) =
      (if delivery.handle.message = message then delivery.waiting else []) ++
        waitingFor message rest := rfl

theorem waitingFor_eq_nil {message : Nat} {levels : List Level}
    (h : message ∉ messagesOf levels) : waitingFor message levels = [] := by
  refine List.flatMap_eq_nil_iff.mpr fun level hlevel => ?_
  cases level with
  | delivery delivery =>
      refine if_neg fun hmessage => h ?_
      exact List.mem_filterMap.mpr ⟨_, hlevel, congrArg some hmessage⟩
  | presentation => rfl
  | invocation _ _ _ _ => rfl

theorem waitingFor_arrangeLevels (order : Order) (message : Nat) (levels : List Level) :
    (waitingFor message (order.arrangeLevels levels)).Perm (waitingFor message levels) := by
  cases levels with
  | nil => exact List.Perm.refl _
  | cons level rest =>
      cases level with
      | delivery delivery =>
          rw [Order.arrangeLevels, waitingFor_delivery, waitingFor_delivery]
          refine List.Perm.append_right _ ?_
          have hhandle : (order.arrangeDelivery delivery).handle = delivery.handle := rfl
          rw [hhandle]
          split
          · exact order.perm _ _
          · exact List.Perm.refl _
      | presentation => exact List.Perm.refl _
      | invocation _ _ _ _ => exact List.Perm.refl _

namespace Outline

/-- Those invoked for a message, the latest first. -/
def seen (outline : Outline) (message : Nat) : List (Registration × Handle) :=
  outline.marks.filterMap (Event.seenBy? message)

/-- How things stand with a message that is for those expected. -/
structure Tally (handle : Handle) (expected : List Registration) (outline : Outline) : Prop where
  given : handle.message < outline.messages
  complete : (outline.seen handle.message ++
    (waitingFor handle.message outline.levels).map (·, handle)).Perm (expected.map (·, handle))
  counted : ∀ delivery, .delivery delivery ∈ outline.levels →
    delivery.handle.message = handle.message →
      delivery.handle = handle ∧ delivery.invoked = (outline.seen handle.message).length
  final : ∀ other count, .concluded other count ∈ outline.marks →
    other.message = handle.message → other = handle ∧ count = expected.length

theorem seen_opened {outline : Outline} {arrival : Arrival} {cause : Cause} (message : Nat) :
    (outline.opened arrival cause).seen message = outline.seen message := by
  cases cause <;> simp [seen, opened, Cause.asking, List.filterMap_cons, Event.seenBy?]

theorem seen_concluded {outline : Outline} {delivery : Delivery} {rest : List Level}
    (message : Nat) : (outline.concluded delivery rest).seen message = outline.seen message := by
  cases hcause : delivery.cause <;>
    simp [seen, concluded, Cause.telling, List.filterMap_cons, Event.seenBy?, hcause]

theorem seen_ended {outline : Outline} {number : Nat} {registration : Registration}
    {ending : Ending} {rest : List Level} (message : Nat) :
    (outline.ended number registration ending rest).seen message = outline.seen message := by
  cases ending <;> simp [seen, ended, Ending.entry?, List.filterMap_cons, Event.seenBy?]

namespace Tally

variable {handle : Handle} {expected : List Registration} {outline : Outline}
variable (h : outline.Tally handle expected)
include h

/-- Nothing changes for a message while nobody is invoked for it. -/
theorem extend {registry : Registry} {kept : List (String × Handle)} {messages invocations : Nat}
    {faults : UInt64} {levels : List Level} {marks : List Event}
    (hmessages : outline.messages ≤ messages)
    (hseen : marks.filterMap (Event.seenBy? handle.message) = outline.seen handle.message)
    (hwaiting : (waitingFor handle.message levels).Perm (waitingFor handle.message outline.levels))
    (hlevels : ∀ delivery, .delivery delivery ∈ levels →
      delivery.handle.message = handle.message → ∃ original, .delivery original ∈ outline.levels ∧
        original.handle = delivery.handle ∧ original.invoked = delivery.invoked)
    (hmarks : ∀ other count, .concluded other count ∈ marks → other.message = handle.message →
      .concluded other count ∈ outline.marks ∨ other = handle ∧ count = expected.length) :
    (Outline.mk registry kept messages invocations faults levels marks).Tally handle expected where
  given := Nat.lt_of_lt_of_le h.given hmessages
  complete := by
    rw [seen, hseen]
    exact ((hwaiting.map _).append_left _).trans h.complete
  counted delivery hmem hmessage := by
    obtain ⟨original, hold, hhandle, hinvoked⟩ := hlevels delivery hmem hmessage
    rw [seen, hseen, ← hhandle, ← hinvoked]
    exact h.counted original hold (hhandle ▸ hmessage)
  final other count hmark hmessage := by
    rcases hmarks other count hmark hmessage with hold | hnew
    · exact h.final other count hold hmessage
    · exact hnew

theorem arranged (order : Order) : (outline.arranged order).Tally handle expected := by
  refine h.extend (Nat.le_refl _) rfl (waitingFor_arrangeLevels order _ _) ?_ ?_
  · intro delivery hmem _
    rcases order.mem_arrangeLevels hmem with ⟨original, heq, hold⟩ | hold
    · cases heq
      exact ⟨original, hold, rfl, rfl⟩
    · exact ⟨delivery, hold, rfl, rfl⟩
  · exact fun other count hmark _ => Or.inl hmark

/-- A dispatch that begins meanwhile is for another message. -/
theorem opened (arrival : Arrival) (cause : Cause) :
    (outline.opened arrival cause).Tally handle expected := by
  have hother : outline.messages ≠ handle.message := (Nat.ne_of_lt h.given).symm
  refine h.extend (Nat.le_succ _) (seen_opened _) ?_ ?_ ?_
  · rw [waitingFor_delivery, if_neg hother]
    exact List.Perm.refl _
  · intro delivery hmem hmessage
    rcases List.mem_cons.mp hmem with heq | hold
    · cases heq
      exact absurd hmessage hother
    · exact ⟨delivery, hold, rfl, rfl⟩
  · intro other count hmark _
    exact Or.inl (by simpa using mem_marks_opened.mp hmark)

section Invoked

variable {delivery : Delivery} {registration : Registration} {waiting : List Registration}
variable {rest : List Level}
variable (hlevels : outline.levels = .delivery delivery :: rest)
include hlevels

/-- Who is invoked for the message has waited for it until then and does not wait any longer. -/
theorem invoked_same (hwaiting : delivery.waiting = registration :: waiting)
    (hnumbered : outline.Numbered) (handlers : Handlers)
    (hmessage : delivery.handle.message = handle.message) :
    (outline.invoked handlers delivery registration waiting rest).Tally handle expected := by
  obtain ⟨hhandle, hinvoked⟩ := h.counted delivery (hlevels ▸ List.mem_cons_self) hmessage
  have hseen : (outline.invoked handlers delivery registration waiting rest).seen handle.message =
      (registration, handle) :: outline.seen handle.message := by
    rw [← hhandle]
    exact List.filterMap_cons_some (if_pos rfl)
  constructor
  case given => exact h.given
  case complete =>
    have hbefore : waitingFor handle.message outline.levels =
        registration :: (waiting ++ waitingFor handle.message rest) := by
      rw [hlevels, waitingFor_delivery, if_pos hmessage, hwaiting, List.cons_append]
    have hafter : waitingFor handle.message
        (outline.invoked handlers delivery registration waiting rest).levels =
          waiting ++ waitingFor handle.message rest := by
      rw [Outline.invoked, waitingFor, List.flatMap_cons, ← waitingFor, waitingFor_delivery,
        if_pos hmessage]
      rfl
    have hcomplete := h.complete
    rw [hbefore, List.map_cons] at hcomplete
    rw [hseen, hafter]
    exact List.perm_middle.symm.trans hcomplete
  case counted =>
    intro other hmem hother
    rw [hseen, List.length_cons, ← hinvoked]
    rcases List.mem_cons.mp hmem with heq | hmem
    · cases heq
    · rcases List.mem_cons.mp hmem with heq | hold
      · cases heq
        exact ⟨hhandle, rfl⟩
      · exact absurd (hother.trans hmessage.symm ▸ mem_messagesOf hold)
          (hnumbered.message_not_mem_rest hlevels)
  case final =>
    intro other count hmark
    exact h.final other count (by simpa [mem_marks_invoked] using hmark)

/-- Who is invoked for another message does not matter. -/
theorem invoked_other (handlers : Handlers)
    (hmessage : delivery.handle.message ≠ handle.message) :
    (outline.invoked handlers delivery registration waiting rest).Tally handle expected := by
  refine h.extend (Nat.le_refl _) ?_ ?_ ?_ ?_
  · exact List.filterMap_cons_none (if_neg hmessage)
  · rw [hlevels, waitingFor_delivery, if_neg hmessage, waitingFor, List.flatMap_cons, ← waitingFor,
      waitingFor_delivery, if_neg hmessage]
    exact List.Perm.refl _
  · intro other hmem hother
    rcases List.mem_cons.mp hmem with heq | hmem
    · cases heq
    · rcases List.mem_cons.mp hmem with heq | hold
      · cases heq
        exact absurd hother hmessage
      · exact ⟨other, hlevels ▸ List.mem_cons_of_mem _ hold, rfl, rfl⟩
  · intro other count hmark _
    exact Or.inl (by simpa using hmark)

end Invoked

/-- A dispatch at which nobody waits any longer has invoked all it is for. -/
theorem concluded (hnumbered : outline.Numbered) {delivery : Delivery} {rest : List Level}
    (hlevels : outline.levels = .delivery delivery :: rest) (hwaiting : delivery.waiting = []) :
    (outline.concluded delivery rest).Tally handle expected := by
  have hmem : .delivery delivery ∈ outline.levels := hlevels ▸ List.mem_cons_self
  have hsame : waitingFor handle.message rest = waitingFor handle.message outline.levels := by
    rw [hlevels, waitingFor_delivery, hwaiting, ite_self, List.nil_append]
  refine h.extend (Nat.le_refl _) (seen_concluded _) (hsame ▸ List.Perm.refl _) ?_ ?_
  · intro other hmem _
    exact ⟨other, hlevels ▸ List.mem_cons_of_mem _ hmem, rfl, rfl⟩
  · intro other count hmark hmessage
    rcases mem_marks_concluded.mp hmark with ⟨-, hnew⟩ | hnew | hold
    · cases hnew
    · cases hnew
      obtain ⟨hhandle, hinvoked⟩ := h.counted delivery hmem hmessage
      have hrest : handle.message ∉ messagesOf rest :=
        hmessage ▸ hnumbered.message_not_mem_rest hlevels
      have hlength := h.complete.length_eq
      rw [← hsame, waitingFor_eq_nil hrest, List.map_nil, List.append_nil, List.length_map]
        at hlength
      exact Or.inr ⟨hhandle, hinvoked.trans hlength⟩
    · exact Or.inl hold

theorem ended {number : Nat} {registration : Registration} {given : Handle} {ending : Ending}
    {rest : List Level}
    (hlevels : outline.levels = .invocation number registration given ending :: rest) :
    (outline.ended number registration ending rest).Tally handle expected := by
  have hsame : waitingFor handle.message rest = waitingFor handle.message outline.levels := by
    rw [hlevels]
    rfl
  have hseen : (outline.ended number registration ending rest).seen handle.message =
      outline.seen handle.message := seen_ended _
  refine h.extend (Nat.le_refl _) hseen (hsame ▸ List.Perm.refl _) ?_ ?_
  · intro other hmem _
    exact ⟨other, hlevels ▸ List.mem_cons_of_mem _ hmem, rfl, rfl⟩
  · intro other count hmark _
    exact Or.inl (by simpa using hmark)

end Tally

theorem Tally.turn {handlers : Handlers} {handle : Handle} {expected : List Registration}
    {before after : Outline} (hturn : before.Turn handlers after) (hnumbered : before.Numbered)
    (h : before.Tally handle expected) : after.Tally handle expected := by
  cases hturn with
  | quiet => exact h
  | governed registry hgrouped => exact ⟨h.1, h.2, h.3, h.4⟩
  | kept slot number registration given ending rest hlevels => exact ⟨h.1, h.2, h.3, h.4⟩
  | presents =>
      refine h.extend (Nat.le_refl _) rfl (List.Perm.refl _) ?_ fun _ _ hmark _ => Or.inl hmark
      intro delivery hmem _
      rcases List.mem_cons.mp hmem with heq | hold
      · cases heq
      · exact ⟨delivery, hold, rfl, rfl⟩
  | passes rest hlevels =>
      have hsame : waitingFor handle.message rest = waitingFor handle.message before.levels := by
        rw [hlevels]
        rfl
      refine h.extend (Nat.le_refl _) rfl (hsame ▸ List.Perm.refl _) ?_
        fun _ _ hmark _ => Or.inl hmark
      intro delivery hmem _
      exact ⟨delivery, hlevels ▸ List.mem_cons_of_mem _ hmem, rfl, rfl⟩
  | opens arrival cause => exact h.opened arrival cause
  | invokes delivery registration waiting rest hlevels hwaiting =>
      by_cases hmessage : delivery.handle.message = handle.message
      · exact h.invoked_same hlevels hwaiting hnumbered handlers hmessage
      · exact h.invoked_other hlevels handlers hmessage
  | concludes delivery rest hlevels hwaiting => exact h.concluded hnumbered hlevels hwaiting
  | ends number registration given ending rest hlevels => exact h.ended hlevels

end Outline

end Neighbours
