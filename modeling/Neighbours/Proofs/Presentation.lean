import Mathlib.Data.Nat.Find
import Neighbours.Proofs.Delivery
import Neighbours.Proofs.Past
import Neighbours.Proofs.Recognition
import Neighbours.Proofs.Routine

/-! What becomes of a packet that is presented. A presentation begins with a step and is over when the
tasks are as many again as before it. If it dispatches a message, the dispatch lies on top of the packet
until then, whatever the handlers do; the packet is blocked when the dispatch ends, and every later
presentation passes it over. -/

namespace Neighbours

theorem Cause.length_settle (cause : Cause) (tasks : List Task) :
    (cause.settle tasks).length = tasks.length := by
  cases cause with
  | presented =>
      cases tasks with
      | nil => rfl
      | cons task tasks => cases task <;> rfl
  | _ => rfl

theorem Order.length_arrangeTasks (order : Order) (tasks : List Task) :
    (order.arrangeTasks tasks).length = tasks.length := by
  cases tasks with
  | nil => rfl
  | cons task tasks => cases task <;> rfl

/-- The messages that the marks tell of have numbers from some number on, and so will others. -/
structure Outline.NumberedFrom (least : Nat) (outline : Outline) : Prop where
  messages : least ≤ outline.messages
  dispatched : ∀ handle, .dispatched handle ∈ outline.marks → least ≤ handle.message

theorem Outline.NumberedFrom.turn {handlers : Handlers} {least : Nat} {before after : Outline}
    (h : before.NumberedFrom least) (hturn : before.Turn handlers after) :
    after.NumberedFrom least := by
  obtain ⟨hmessages, hdispatched⟩ := h
  cases hturn with
  | opens arrival cause =>
      refine ⟨Nat.le_succ_of_le hmessages, fun handle hmem => ?_⟩
      rcases mem_marks_opened.mp hmem with hnew | ⟨-, hnew⟩ | hold
      · cases hnew
        exact hmessages
      · cases hnew
      · exact hdispatched handle hold
  | invokes delivery registration waiting rest hlevels hwaiting =>
      refine ⟨hmessages, fun handle hmem => hdispatched handle ?_⟩
      simpa [mem_marks_invoked] using hmem
  | concludes delivery rest hlevels hwaiting =>
      refine ⟨hmessages, fun handle hmem => hdispatched handle ?_⟩
      simpa [mem_marks_concluded] using hmem
  | ends number registration handle ending rest hlevels =>
      refine ⟨hmessages, fun handle hmem => hdispatched handle ?_⟩
      simpa [mem_marks_ended] using hmem
  | _ => exact ⟨hmessages, hdispatched⟩

namespace Machine

/-- A dispatch is under way on top of other tasks. -/
def Delivers (machine : Machine) (handle : Handle) (cause : Cause) (base : List Task) : Prop :=
  ∃ above delivery, machine.tasks = above ++ .delivering delivery :: base ∧
    delivery.handle = handle ∧ delivery.cause = cause

section Stack

variable (machine : Machine)

theorem exists_tasks_begin (operation : Operation) :
    ∃ above, (machine.begin operation).tasks = above ++ machine.tasks := by
  cases operation with
  | receive frame point =>
      simp only [begin, takeIn]
      cases Arrival.ofFrame? frame point with
      | none => exact ⟨[], rfl⟩
      | some arrival => exact ⟨[_], rfl⟩
  | present packet times => exact ⟨[_], rfl⟩
  | dispatch arrival => exact ⟨[_], rfl⟩
  | act slot action =>
      simp only [begin]
      split <;> exact ⟨[], rfl⟩
  | _ => exact ⟨[], rfl⟩

theorem exists_tasks_perform (handle : Handle) (step : Step) :
    ∃ above, (machine.perform handle step).tasks = above ++ machine.tasks := by
  cases step with
  | perform operation => exact machine.exists_tasks_begin operation
  | _ => exact ⟨[], rfl⟩

theorem exists_tasks_present (packet : Packet) (left : Nat) :
    ∃ above, (machine.present packet left).tasks = above ++ machine.tasks := by
  simp only [present, takeIn]
  split
  · exact ⟨[_], rfl⟩
  · cases Arrival.ofFrame? packet.frame packet.point with
    | none => exact ⟨[_], rfl⟩
    | some arrival => exact ⟨[_, _], rfl⟩

theorem tasks_finish (invocation : Invocation) :
    (machine.finish invocation).tasks = machine.tasks := by
  simp only [finish]
  cases invocation.script.ending <;> rfl

/-- A packet that is blocked lies above what else is under way. -/
theorem exists_settle_append (cause : Cause) (above : List Task) (delivery : Delivery)
    (base : List Task) :
    ∃ others, cause.settle (above ++ .delivering delivery :: base) =
      others ++ .delivering delivery :: base := by
  cases above with
  | nil => exact ⟨[], by cases cause <;> rfl⟩
  | cons top rest =>
      cases cause with
      | presented =>
          cases top with
          | presenting packet left => exact ⟨.presenting { packet with blocked := true } left :: rest, rfl⟩
          | _ => exact ⟨_ :: rest, rfl⟩
      | _ => exact ⟨top :: rest, rfl⟩

variable {machine} {handle : Handle} {cause : Cause} {base : List Task}

/-- What a step leaves under it is not touched while a dispatch lies in between. -/
theorem Delivers.of_append {after : Machine} (h : machine.Delivers handle cause base)
    (hafter : ∃ above, after.tasks = above ++ machine.tasks) : after.Delivers handle cause base := by
  obtain ⟨above, delivery, htasks, hhandle, hcause⟩ := h
  obtain ⟨others, hothers⟩ := hafter
  refine ⟨others ++ above, delivery, ?_, hhandle, hcause⟩
  rw [hothers, htasks, List.append_assoc]

/-- A dispatch under way goes on with every step but the one that ends it. -/
theorem Delivers.step (h : machine.Delivers handle cause base) (handlers : Handlers) :
    (step handlers machine).Delivers handle cause base ∨
      ∃ delivery, step handlers machine = (machine.withTasks base).conclude delivery ∧
        delivery.handle = handle ∧ delivery.cause = cause := by
  obtain ⟨above, delivery, htasks, hhandle, hcause⟩ := h
  cases above with
  | nil =>
      rw [Machine.step, htasks]
      simp only [List.nil_append]
      split
      · exact Or.inr ⟨delivery, rfl, hhandle, hcause⟩
      · exact Or.inl ⟨[_], _, rfl, hhandle, hcause⟩
  | cons top rest =>
      refine Or.inl ?_
      have hunder : ({ machine with tasks := rest ++ .delivering delivery :: base } : Machine).Delivers
          handle cause base := ⟨rest, delivery, rfl, hhandle, hcause⟩
      rw [Machine.step, htasks]
      cases top with
      | presenting packet left =>
          cases left with
          | zero => exact hunder
          | succ left => exact hunder.of_append (exists_tasks_present _ packet left)
      | delivering other =>
          simp only [List.cons_append]
          split
          · rw [conclude_eq]
            obtain ⟨others, hothers⟩ := exists_settle_append other.cause rest delivery base
            exact ⟨others, delivery, hothers, hhandle, hcause⟩
          · exact hunder.of_append ⟨[_, _], rfl⟩
      | running invocation =>
          simp only [List.cons_append]
          split
          · exact hunder.of_append ⟨[], tasks_finish _ invocation⟩
          · next first steps _ =>
              let remaining : Task :=
                .running { invocation with script := { invocation.script with steps := steps } }
              have hrunning : ({ machine with
                  tasks := remaining :: (rest ++ .delivering delivery :: base) } : Machine).Delivers
                    handle cause base := hunder.of_append ⟨[remaining], rfl⟩
              exact hrunning.of_append (exists_tasks_perform _ invocation.handle first)

theorem Delivers.arrange (h : machine.Delivers handle cause base) (order : Order) :
    (machine.arrange order).Delivers handle cause base := by
  obtain ⟨above, delivery, htasks, hhandle, hcause⟩ := h
  cases above with
  | nil =>
      refine ⟨[], order.arrangeDelivery delivery, ?_, hhandle, hcause⟩
      rw [Machine.arrange, htasks]
      rfl
  | cons top rest =>
      have htop : ∃ other, order.arrangeTasks machine.tasks =
          other :: rest ++ .delivering delivery :: base := by
        rw [htasks]
        cases top <;> exact ⟨_, rfl⟩
      obtain ⟨other, hother⟩ := htop
      exact ⟨other :: rest, delivery, hother, hhandle, hcause⟩

/-- There is more to do than what lies under the dispatch. -/
theorem Delivers.length_lt (h : machine.Delivers handle cause base) :
    base.length < machine.tasks.length := by
  obtain ⟨above, delivery, htasks, -, -⟩ := h
  rw [htasks, List.length_append, List.length_cons]
  omega

end Stack

/-- What is dispatched from some moment on has numbers that had not been given out by then. -/
theorem le_message_of_dispatched (machine : Machine) (order : Order) (handlers : Handlers) (n : Nat)
    {other : Handle} (h : .dispatched other ∈ (runIn order handlers n machine.unrecorded).history) :
    machine.emissions.length ≤ other.message := by
  have hstart : machine.unrecorded.outline.NumberedFrom machine.emissions.length :=
    ⟨Nat.le_refl _, fun _ hmem => absurd hmem List.not_mem_nil⟩
  have hlater : (runIn order handlers n machine.unrecorded).outline.NumberedFrom
      machine.emissions.length :=
    outline_preserve order handlers (fun _ _ hturn h => h.turn hturn)
      (fun _ h => ⟨h.messages, h.dispatched⟩) n hstart
  exact hlater.dispatched other (List.mem_filter.mpr ⟨h, rfl⟩)

/-- Nobody is told that the dispatch of a packet has ended, but duplicates may be warned of. -/
theorem exists_closing_presented (machine : Machine) {delivery : Delivery}
    (hcause : delivery.cause = .presented) :
    ∃ warnings, machine.closing delivery = .concluded delivery.handle delivery.invoked :: warnings ∧
      ∀ other, .dispatched other ∉ warnings := by
  have hanswer : delivery.answer? = none := by
    rw [Delivery.answer?, hcause]
  rw [closing, hanswer]
  refine ⟨_, rfl, fun other hmem => ?_⟩
  split at hmem
  · cases List.mem_singleton.mp hmem
  · exact absurd hmem List.not_mem_nil

/-- What the next step of a machine begins is over after a number of steps: for the first time there are
as many tasks again as before. -/
structure Returns (order : Order) (handlers : Handlers) (machine : Machine) (n : Nat) : Prop where
  positive : 0 < n
  height : (runIn order handlers n machine).tasks.length = machine.tasks.length
  first : ∀ m, 0 < m → m < n →
    (runIn order handlers m machine).tasks.length ≠ machine.tasks.length

/-- The machine after a packet has been presented once and passed over, but for an update of counters. -/
def passed (machine : Machine) (packet : Packet) (left : Nat) (below : List Task)
    (update : Stats → Stats) : Machine :=
  { machine.count update with
    tasks := .presenting packet left :: below
    history := .presented packet :: machine.history }

section Presenting

variable {order : Order} {handlers : Handlers} {machine : Machine} {n : Nat}

theorem exists_returns {m : Nat} (hpositive : 0 < m)
    (hheight : (runIn order handlers m machine).tasks.length = machine.tasks.length) :
    ∃ n, Returns order handlers machine n := by
  classical
  have hfound : ∃ n, 0 < n ∧ (runIn order handlers n machine).tasks.length = machine.tasks.length :=
    ⟨m, hpositive, hheight⟩
  obtain ⟨hfirst, hheight⟩ := Nat.find_spec hfound
  refine ⟨Nat.find hfound, hfirst, hheight, fun m hpositive hlt heq => ?_⟩
  exact Nat.find_min hfound hlt ⟨hpositive, heq⟩

variable {packet : Packet} {left : Nat} {below : List Task}
  (htasks : machine.tasks = .presenting packet (left + 1) :: below)
include htasks

/-- A packet that is blocked already is passed over. -/
theorem stepIn_of_blocked (hblocked : packet.blocked = true) :
    stepIn order handlers machine = machine.passed packet left below id := by
  rw [stepIn, step, htasks]
  simp only [present, hblocked, if_true]
  rfl

/-- So is one that carries no message, but it is counted. -/
theorem stepIn_of_unrecognised (hblocked : packet.blocked = false)
    (hframe : Arrival.ofFrame? packet.frame packet.point = none) :
    stepIn order handlers machine =
      machine.passed packet left below fun stats => stats.countReceived.countIgnored := by
  rw [stepIn, step, htasks]
  simp only [present, hblocked, takeIn, record, push, count, hframe]
  rfl

theorem Returns.eq_one (h : Returns order handlers machine n) {update : Stats → Stats} {same : Packet}
    (hstep : stepIn order handlers machine = machine.passed same left below update) : n = 1 := by
  by_contra hne
  have hpositive := h.positive
  refine h.first 1 Nat.one_pos (by omega) ?_
  show (stepIn order handlers machine).tasks.length = _
  rw [hstep, htasks]
  rfl

/-- One that carries a message gets the dispatch of the message on top of it. -/
theorem stepIn_of_recognised (hblocked : packet.blocked = false) {arrival : Arrival}
    (hframe : Arrival.ofFrame? packet.frame packet.point = some arrival) :
    stepIn order handlers machine =
      ((machine.passed packet left below Stats.countReceived).dispatch arrival .presented).arrange
        order := by
  rw [stepIn, step, htasks]
  simp only [present, hblocked, takeIn, record, push, count, hframe]
  rfl

variable (hblocked : packet.blocked = false) {arrival : Arrival}
  (hframe : Arrival.ofFrame? packet.frame packet.point = some arrival)
include hblocked hframe

theorem delivers_stepIn :
    (stepIn order handlers machine).Delivers ⟨machine.emissions.length, arrival⟩ .presented
      (.presenting packet left :: below) := by
  have hopened : ((machine.passed packet left below Stats.countReceived).dispatch arrival
      .presented).Delivers ⟨machine.emissions.length, arrival⟩ .presented
        (.presenting packet left :: below) := ⟨[], _, rfl, rfl, rfl⟩
  rw [stepIn_of_recognised htasks hblocked hframe]
  exact hopened.arrange order

/-- The dispatch lies on top of the packet for as long as the presentation lasts. -/
theorem Returns.delivers (h : Returns order handlers machine n) {m : Nat} (hpositive : 0 < m)
    (hlt : m < n) :
    (runIn order handlers m machine).Delivers ⟨machine.emissions.length, arrival⟩ .presented
      (.presenting packet left :: below) := by
  induction m with
  | zero => exact absurd hpositive (Nat.lt_irrefl 0)
  | succ m ih =>
      rcases Nat.eq_zero_or_pos m with rfl | hm
      · exact delivers_stepIn htasks hblocked hframe
      · rw [runIn_succ]
        rcases (ih hm (Nat.lt_of_succ_lt hlt)).step handlers with hon | ⟨delivery, hstep, -, hcause⟩
        · exact hon.arrange order
        · refine absurd ?_ (h.first (m + 1) hpositive hlt)
          rw [runIn_succ, stepIn, hstep, conclude_eq, hcause, htasks]
          rfl

/-- The presentation ends with the dispatch. -/
theorem Returns.exists_conclusion (h : Returns order handlers machine n) :
    ∃ m delivery, n = m + 2 ∧ delivery.handle = ⟨machine.emissions.length, arrival⟩ ∧
      delivery.cause = .presented ∧
      step handlers (runIn order handlers (m + 1) machine) =
        ((runIn order handlers (m + 1) machine).withTasks (.presenting packet left :: below)).conclude
          delivery := by
  have hbase : (Task.presenting packet left :: below).length = machine.tasks.length := by
    rw [htasks]
    rfl
  have hstays : ∀ after : Machine, after.tasks.length = machine.tasks.length →
      ¬after.Delivers ⟨machine.emissions.length, arrival⟩ .presented
        (.presenting packet left :: below) := by
    intro after hheight hdelivers
    exact absurd (hbase.trans hheight.symm) (Nat.ne_of_lt hdelivers.length_lt)
  cases n with
  | zero => exact absurd h.positive (Nat.lt_irrefl 0)
  | succ n =>
      cases n with
      | zero =>
          exact absurd (delivers_stepIn htasks hblocked hframe) (hstays _ h.height)
      | succ m =>
          have hbefore := h.delivers htasks hblocked hframe (Nat.succ_pos m) (Nat.lt_succ_self _)
          rcases hbefore.step handlers with hon | ⟨delivery, hstep, hhandle, hcause⟩
          · have hheight := h.height
            rw [runIn_succ] at hheight
            exact absurd (hon.arrange order) (hstays _ hheight)
          · exact ⟨m, delivery, rfl, hhandle, hcause, hstep⟩

/-- The presentation comes to its end unless a handler invoked for the message runs for ever. -/
theorem exists_returns_of_recognised
    (hends : ∀ m, ∀ number ∈ (runIn order handlers m (stepIn order handlers machine)).running
        machine.emissions.length,
      ∃ more, number ∉ (runIn order handlers (m + more) (stepIn order handlers machine)).running
        machine.emissions.length) :
    ∃ n, Returns order handlers machine n := by
  have hlevels : ∃ delivery : Delivery, (stepIn order handlers machine).outline.levels =
        .delivery delivery :: (Task.presenting packet left :: below).map Task.level ∧
      delivery.handle.message = machine.emissions.length := by
    rw [stepIn_of_recognised htasks hblocked hframe]
    exact ⟨_, rfl, rfl⟩
  obtain ⟨delivery, hlevels, hmessage⟩ := hlevels
  rw [← hmessage] at hends
  obtain ⟨m, last, hlast, hwaiting, -, -⟩ := exists_not_waiting order handlers hlevels hends
  obtain ⟨tasks, hlying, hbelow⟩ := tasks_of_delivery hlast
  have hstep : step handlers (runIn order handlers m (stepIn order handlers machine)) =
      ((runIn order handlers m (stepIn order handlers machine)).withTasks tasks).conclude last := by
    rw [step, hlying]
    simp only [hwaiting]
    rfl
  refine exists_returns (Nat.succ_pos (m + 1)) ?_
  show (runIn order handlers (m + 1) (stepIn order handlers machine)).tasks.length = _
  rw [runIn_succ, stepIn, hstep, conclude_eq, arrange, Order.length_arrangeTasks, Cause.length_settle,
    htasks]
  have hlength := congrArg List.length hbelow
  rw [List.length_map, List.length_map] at hlength
  exact hlength

/-- What lay under the packet lies under it again, and the packet is blocked. -/
theorem Returns.tasks_of_recognised (h : Returns order handlers machine n) :
    (runIn order handlers n machine).tasks =
      .presenting { packet with blocked := true } left :: below := by
  obtain ⟨m, delivery, rfl, -, hcause, hstep⟩ := h.exists_conclusion htasks hblocked hframe
  rw [runIn_succ, stepIn, hstep, conclude_eq, hcause]
  rfl

/-- What is added begins with the dispatch and ends with its end. -/
theorem Returns.exists_history (h : Returns order handlers machine n) :
    let handle : Handle := ⟨machine.emissions.length, arrival⟩
    ∃ invoked during, (runIn order handlers n machine).history =
        .concluded handle invoked ::
          (during ++ .dispatched handle :: .presented packet :: machine.history) ∧
      ∀ other, .dispatched other ∈ during → handle.message < other.message := by
  intro handle
  obtain ⟨m, delivery, rfl, hhandle, hcause, hstep⟩ := h.exists_conclusion htasks hblocked hframe
  let opened := stepIn order handlers machine
  let ending := (runIn order handlers (m + 1) machine).withTasks (.presenting packet left :: below)
  have hbegins : opened =
      ((machine.passed packet left below Stats.countReceived).dispatch arrival .presented).arrange
        order := stepIn_of_recognised htasks hblocked hframe
  have hopened : opened.history = .dispatched handle :: .presented packet :: machine.history :=
    congrArg history hbegins
  have hmessages : opened.emissions = machine.emissions ++ [0] := congrArg emissions hbegins
  have hrest : ending.history =
      (runIn order handlers m opened.unrecorded).history ++ opened.history :=
    opened.history_runIn order handlers m
  obtain ⟨warnings, hclosing, hwarnings⟩ := ending.exists_closing_presented hcause
  refine ⟨delivery.invoked, warnings ++ (runIn order handlers m opened.unrecorded).history, ?_, ?_⟩
  · rw [runIn_succ, stepIn, hstep, conclude_eq]
    show ending.closing delivery ++ ending.history = _
    rw [hclosing, hrest, hopened, hhandle, List.cons_append, List.append_assoc]
  · intro other hmem
    rcases List.mem_append.mp hmem with hwarning | hduring
    · exact absurd hwarning (hwarnings other)
    · have hle := opened.le_message_of_dispatched order handlers m hduring
      rw [hmessages, List.length_append] at hle
      exact hle

end Presenting

end Machine

/-- One presentation of a packet: the machine at which it begins, how often the packet is still to be
presented after it, what lies under the packet, and the number of steps that it takes. -/
structure Presentation where
  machine : Machine
  left : Nat
  below : List Task
  steps : Nat

namespace Presentation

variable (order : Order) (handlers : Handlers)

def after (presentation : Presentation) : Machine :=
  Machine.runIn order handlers presentation.steps presentation.machine

/-- What a presentation is of, and what it leaves of it. -/
structure Leads (presentation : Presentation) (packet next : Packet) : Prop where
  begins : presentation.machine.tasks =
    .presenting packet (presentation.left + 1) :: presentation.below
  returns : presentation.machine.Returns order handlers presentation.steps
  leaves : ∃ left below, (presentation.after order handlers).tasks = .presenting next left :: below

/-- Presentations one after the other, each of the packet as the one before has left it. Whatever may
have been done to the machine in between. -/
inductive Successive : Packet → List Presentation → Packet → Prop
  | nil (packet : Packet) : Successive packet [] packet
  | cons {packet next last : Packet} {presentation : Presentation} {later : List Presentation}
      (hleads : presentation.Leads order handlers packet next) (hlater : Successive next later last) :
    Successive packet (presentation :: later) last

/-- A presentation that takes one step and does nothing but update counters. -/
structure Passes (presentation : Presentation) (packet : Packet) (update : Stats → Stats) :
    Prop where
  once : presentation.steps = 1
  after_eq : presentation.after order handlers =
    presentation.machine.passed packet presentation.left presentation.below update

/-- A presentation that dispatches a message. The dispatch begins with the first step and is under way
until the last, which blocks the packet; meanwhile no other is begun under its number. -/
structure Dispatches (presentation : Presentation) (packet : Packet) (arrival : Arrival) : Prop where
  begins : Machine.stepIn order handlers presentation.machine =
    ((presentation.machine.passed packet presentation.left presentation.below
      Stats.countReceived).dispatch arrival .presented).arrange order
  lasts : ∀ m, 0 < m → m < presentation.steps →
    (Machine.runIn order handlers m presentation.machine).Delivers
      ⟨presentation.machine.emissions.length, arrival⟩ .presented
      (.presenting packet presentation.left :: presentation.below)
  blocks : (presentation.after order handlers).tasks =
    .presenting { packet with blocked := true } presentation.left :: presentation.below
  marks : let handle : Handle := ⟨presentation.machine.emissions.length, arrival⟩
    ∃ invoked during, (presentation.after order handlers).history =
        .concluded handle invoked ::
          (during ++ .dispatched handle :: .presented packet :: presentation.machine.history) ∧
      ∀ other, .dispatched other ∈ during → handle.message < other.message

variable {order handlers} {presentation : Presentation} {packet next : Packet}

/-- What is passed over stays as it is. -/
theorem Leads.passes (h : presentation.Leads order handlers packet next) {update : Stats → Stats}
    (hstep : Machine.stepIn order handlers presentation.machine =
      presentation.machine.passed packet presentation.left presentation.below update) :
    presentation.Passes order handlers packet update ∧ next = packet := by
  have honce : presentation.steps = 1 := h.returns.eq_one h.begins hstep
  have hafter : presentation.after order handlers =
      presentation.machine.passed packet presentation.left presentation.below update := by
    rw [after, honce]
    exact hstep
  obtain ⟨left, below, htasks⟩ := h.leaves
  rw [hafter] at htasks
  cases htasks
  exact ⟨⟨honce, hafter⟩, rfl⟩

theorem Leads.passes_of_blocked (h : presentation.Leads order handlers packet next)
    (hblocked : packet.blocked = true) :
    presentation.Passes order handlers packet id ∧ next = packet :=
  h.passes (Machine.stepIn_of_blocked h.begins hblocked)

theorem Leads.passes_of_unrecognised (h : presentation.Leads order handlers packet next)
    (hblocked : packet.blocked = false)
    (hframe : Arrival.ofFrame? packet.frame packet.point = none) :
    presentation.Passes order handlers packet (fun stats => stats.countReceived.countIgnored) ∧
      next = packet :=
  h.passes (Machine.stepIn_of_unrecognised h.begins hblocked hframe)

theorem Leads.dispatches (h : presentation.Leads order handlers packet next)
    (hblocked : packet.blocked = false) {arrival : Arrival}
    (hframe : Arrival.ofFrame? packet.frame packet.point = some arrival) :
    presentation.Dispatches order handlers packet arrival ∧ next = { packet with blocked := true } := by
  have hblocks : (presentation.after order handlers).tasks =
      .presenting { packet with blocked := true } presentation.left :: presentation.below :=
    h.returns.tasks_of_recognised h.begins hblocked hframe
  obtain ⟨left, below, hleaves⟩ := h.leaves
  rw [hblocks] at hleaves
  cases hleaves
  exact ⟨⟨Machine.stepIn_of_recognised h.begins hblocked hframe,
    fun _ => h.returns.delivers h.begins hblocked hframe, hblocks,
    h.returns.exists_history h.begins hblocked hframe⟩, rfl⟩

/-- Where all presentations of a packet pass it over, any number of them do. -/
theorem Successive.passes {presentations : List Presentation} {last : Packet}
    (h : Successive order handlers packet presentations last) {update : Stats → Stats}
    (hpasses : ∀ presentation next, Leads order handlers presentation packet next →
      presentation.Passes order handlers packet update ∧ next = packet) :
    (∀ presentation ∈ presentations, presentation.Passes order handlers packet update) ∧
      last = packet := by
  induction h with
  | nil packet => exact ⟨fun _ hmem => absurd hmem List.not_mem_nil, rfl⟩
  | cons hleads hlater ih =>
      obtain ⟨hfirst, rfl⟩ := hpasses _ _ hleads
      obtain ⟨hothers, hlast⟩ := ih hpasses
      exact ⟨List.forall_mem_cons.mpr ⟨hfirst, hothers⟩, hlast⟩

theorem Successive.passes_of_blocked {presentations : List Presentation} {last : Packet}
    (h : Successive order handlers packet presentations last) (hblocked : packet.blocked = true) :
    (∀ presentation ∈ presentations, presentation.Passes order handlers packet id) ∧ last = packet :=
  h.passes fun _ _ hleads => hleads.passes_of_blocked hblocked

theorem Successive.passes_of_unrecognised {presentations : List Presentation} {last : Packet}
    (h : Successive order handlers packet presentations last) (hblocked : packet.blocked = false)
    (hframe : ¬Arrival.Recognisable packet.frame) :
    (∀ presentation ∈ presentations, presentation.Passes order handlers packet
        fun stats => stats.countReceived.countIgnored) ∧ last = packet := by
  have hnone : Arrival.ofFrame? packet.frame packet.point = none := by
    cases hread : Arrival.ofFrame? packet.frame packet.point with
    | none => rfl
    | some arrival => exact absurd (Arrival.exists_ofFrame?_iff.mp ⟨arrival, hread⟩) hframe
  exact h.passes fun _ _ hleads => hleads.passes_of_unrecognised hblocked hnone

theorem Successive.dispatches {presentations : List Presentation} {last : Packet}
    (h : Successive order handlers packet presentations last) (hpresented : presentations ≠ [])
    (hblocked : packet.blocked = false) {arrival : Arrival}
    (hframe : Arrival.ofFrame? packet.frame packet.point = some arrival) :
    (∃ first later, presentations = first :: later ∧
        first.Dispatches order handlers packet arrival ∧
        ∀ presentation ∈ later,
          presentation.Passes order handlers { packet with blocked := true } id) ∧
      last = { packet with blocked := true } := by
  cases h with
  | nil => exact absurd rfl hpresented
  | cons hleads hlater =>
      obtain ⟨hfirst, rfl⟩ := hleads.dispatches hblocked hframe
      obtain ⟨hothers, rfl⟩ := hlater.passes_of_blocked rfl
      exact ⟨⟨_, _, rfl, hfirst, hothers⟩, rfl⟩

/-- A presentation comes to its end, and leaves a packet, unless it dispatches a message that a handler
runs on for ever. -/
theorem exists_leads {machine : Machine} {left : Nat} {below : List Task}
    (htasks : machine.tasks = .presenting packet (left + 1) :: below)
    (hends : packet.blocked = false → Arrival.Recognisable packet.frame →
      let begun := Machine.stepIn order handlers machine
      ∀ m, ∀ number ∈ (Machine.runIn order handlers m begun).running machine.emissions.length,
        ∃ more, number ∉
          (Machine.runIn order handlers (m + more) begun).running machine.emissions.length) :
    ∃ steps next, Leads order handlers ⟨machine, left, below, steps⟩ packet next := by
  have hpasses : ∀ update, Machine.stepIn order handlers machine =
      machine.passed packet left below update →
        ∃ steps next, Leads order handlers ⟨machine, left, below, steps⟩ packet next := by
    intro update hstep
    have hafter : (Machine.runIn order handlers 1 machine).tasks =
        .presenting packet left :: below := congrArg Machine.tasks hstep
    refine ⟨1, packet, htasks, ⟨Nat.one_pos, ?_, fun m hpositive hlt => ?_⟩, left, below, hafter⟩
    · rw [hafter, htasks]
      rfl
    · exact absurd (Nat.lt_one_iff.mp hlt) (Nat.pos_iff_ne_zero.mp hpositive)
  cases hblocked : packet.blocked with
  | true => exact hpasses id (Machine.stepIn_of_blocked htasks hblocked)
  | false =>
      cases hframe : Arrival.ofFrame? packet.frame packet.point with
      | none => exact hpasses _ (Machine.stepIn_of_unrecognised htasks hblocked hframe)
      | some arrival =>
          have hrecognisable := Arrival.exists_ofFrame?_iff.mp ⟨arrival, hframe⟩
          obtain ⟨steps, hreturns⟩ := Machine.exists_returns_of_recognised htasks hblocked hframe
            (hends hblocked hrecognisable)
          exact ⟨steps, _, htasks, hreturns, left, below,
            hreturns.tasks_of_recognised htasks hblocked hframe⟩

/-- A packet is dispatched by the first of several presentations if it carries a message and is not blocked
before, and by none otherwise. Whatever the order and the handlers, whatever they do and whatever is done
in between, a packet that is blocked is passed over without effect; one that carries no message stays
as it is and is counted as received and as ignored each time; and one that carries a message is blocked
from the end of its first presentation on. The frame itself, and where it was received, stay. A
presentation comes to its end unless it dispatches a message that a handler runs on for ever. Whether a
frame that is received is taken for a message depends on its octets alone, too. -/
theorem dispatched_once (order : Order) (handlers : Handlers) (packet : Packet) :
    (∀ presentations last, presentations ≠ [] →
        Successive order handlers packet presentations last →
      (last.frame = packet.frame ∧ last.point = packet.point ∧
        (last.blocked = true ↔ packet.blocked = true ∨ Arrival.Recognisable packet.frame)) ∧
      (packet.blocked = true →
        ∀ presentation ∈ presentations, presentation.Passes order handlers packet id) ∧
      (packet.blocked = false →
        ∀ arrival, Arrival.ofFrame? packet.frame packet.point = some arrival →
          ∃ first later, presentations = first :: later ∧
            first.Dispatches order handlers packet arrival ∧
            ∀ presentation ∈ later,
              presentation.Passes order handlers { packet with blocked := true } id) ∧
      (packet.blocked = false → ¬Arrival.Recognisable packet.frame →
        ∀ presentation ∈ presentations, presentation.Passes order handlers packet
          fun stats => stats.countReceived.countIgnored)) ∧
    (∀ (machine : Machine) left below, machine.tasks = .presenting packet (left + 1) :: below →
      (packet.blocked = false → Arrival.Recognisable packet.frame →
        let begun := Machine.stepIn order handlers machine
        ∀ m, ∀ number ∈ (Machine.runIn order handlers m begun).running machine.emissions.length,
          ∃ more, number ∉
            (Machine.runIn order handlers (m + more) begun).running machine.emissions.length) →
      ∃ steps next, Leads order handlers ⟨machine, left, below, steps⟩ packet next) ∧
    ∀ (machine : Machine) cause,
      (machine.takeIn packet.frame packet.point cause).2 = true ↔
        Arrival.Recognisable packet.frame := by
  have hframe : (∃ arrival, Arrival.ofFrame? packet.frame packet.point = some arrival) ↔
      Arrival.Recognisable packet.frame := Arrival.exists_ofFrame?_iff
  refine ⟨?_, fun machine left below htasks hends => exists_leads htasks hends, ?_⟩
  · intro presentations last hpresented h
    refine ⟨?_, fun hblocked => (h.passes_of_blocked hblocked).1,
      fun hblocked arrival harrival => (h.dispatches hpresented hblocked harrival).1,
      fun hblocked hnone => (h.passes_of_unrecognised hblocked hnone).1⟩
    cases hblocked : packet.blocked with
    | true =>
        obtain ⟨-, rfl⟩ := h.passes_of_blocked hblocked
        exact ⟨rfl, rfl, by simp [hblocked]⟩
    | false =>
        by_cases hread : Arrival.Recognisable packet.frame
        · obtain ⟨arrival, harrival⟩ := hframe.mpr hread
          obtain ⟨-, rfl⟩ := h.dispatches hpresented hblocked harrival
          exact ⟨rfl, rfl, by simp [hread]⟩
        · obtain ⟨-, rfl⟩ := h.passes_of_unrecognised hblocked hread
          exact ⟨rfl, rfl, by simp [hblocked, hread]⟩
  · intro machine cause
    rw [← hframe, Machine.takeIn]
    cases Arrival.ofFrame? packet.frame packet.point with
    | none => simp
    | some arrival => simp

end Presentation

/-! A request is presented, the handler invoked for it shuts the engine down and panics, the handler is
registered anew, and the request is presented again. -/

namespace PresentedTwice

open Sample (point app registration)

def request : Bytes :=
  Mac.broadcast.bytes ++ Mac.zero.bytes ++ [0x08, 0x06, 0x00, 0x01, 0x08, 0x00, 0x06, 0x04, 0x00, 0x01] ++
    Mac.zero.bytes ++ List.replicate 4 1 ++ Mac.zero.bytes ++ List.replicate 4 2

def arrival : Arrival :=
  ⟨point, .zero, .broadcast, none,
    .arp ⟨.request, .zero, Octets.replicate 4 1, .zero, Octets.replicate 4 2⟩, request⟩

def packet (blocked : Bool) : Packet := ⟨request, point, blocked⟩

def handlers : Handlers := fun _ _ _ => ⟨[.perform (.command .shutdown)], .panicked⟩

def agenda : List Operation :=
  [.command (.insert point (registration "first")), .present (packet false) 1,
    .command (.insert point (registration "first")), .present (packet true) 1]

def run (n : Nat) : Machine :=
  Machine.runIn .asRegistered handlers n (.start app .default (.ofLists [] []) agenda)

/-- The first presentation begins after two steps, the second one after ten. -/
def first : Presentation := ⟨run 2, 0, [], 5⟩

def second : Presentation := ⟨run 10, 0, [], 1⟩

theorem recognised_request : Arrival.ofFrame? request point = some arrival := by
  decide +kernel

/-- The machine once the message has been recognised. -/
def begun : Machine :=
  (((run 2).passed (packet false) 0 [] Stats.countReceived).dispatch arrival .presented).arrange
    .asRegistered

theorem stepIn_run_two : Machine.stepIn .asRegistered handlers (run 2) = begun :=
  Machine.stepIn_of_recognised rfl rfl recognised_request

theorem run_eq_runIn_begun (n : Nat) : run (3 + n) = Machine.runIn .asRegistered handlers n begun := by
  rw [← stepIn_run_two]
  exact Machine.runIn_add .asRegistered handlers 3 n _

theorem dispatched_presentedTwice :
    Presentation.Successive .asRegistered handlers (packet false) [first, second] (packet true) ∧
      first.Dispatches .asRegistered handlers (packet false) arrival ∧
      second.Passes .asRegistered handlers (packet true) id := by
  have hfirst : first.Leads .asRegistered handlers (packet false) (packet true) := by
    have hafter : (run 7).tasks = [.presenting (packet true) 0] := by
      rw [run_eq_runIn_begun 4]
      rfl
    have hlasts : ∀ m < 4, (Machine.runIn .asRegistered handlers m begun).tasks.length ≠ 1 := by
      decide
    have hheight : (run 7).tasks.length = (run 2).tasks.length := by
      rw [hafter]
      rfl
    refine ⟨rfl, ⟨by decide, hheight, fun m hpositive hlt => ?_⟩, 0, [], hafter⟩
    obtain ⟨m, rfl⟩ := Nat.exists_eq_add_one.mpr hpositive
    show (Machine.runIn .asRegistered handlers m
      (Machine.stepIn .asRegistered handlers (run 2))).tasks.length ≠ 1
    rw [stepIn_run_two]
    exact hlasts m (Nat.lt_of_succ_lt_succ hlt)
  have hsecond : second.Leads .asRegistered handlers (packet true) (packet true) := by
    have hbefore : (run 10).tasks = [.presenting (packet true) 1] := by
      rw [run_eq_runIn_begun 7]
      rfl
    have hafter : (run 11).tasks = [.presenting (packet true) 0] := by
      rw [run_eq_runIn_begun 8]
      rfl
    have hheight : (run 11).tasks.length = (run 10).tasks.length := by
      rw [hafter, hbefore]
      rfl
    refine ⟨hbefore, ⟨by decide, hheight, fun m hpositive hlt => ?_⟩, 0, [], hafter⟩
    exact absurd (Nat.lt_one_iff.mp hlt) (Nat.pos_iff_ne_zero.mp hpositive)
  have hsuccessive : Presentation.Successive .asRegistered handlers (packet false) [first, second]
      (packet true) := .cons hfirst (.cons hsecond (.nil _))
  obtain ⟨hall, -, -⟩ := Presentation.dispatched_once .asRegistered handlers (packet false)
  obtain ⟨-, -, hdispatches, -⟩ := hall _ _ (List.cons_ne_nil _ _) hsuccessive
  obtain ⟨_, _, heq, hdispatched, hpassed⟩ := hdispatches rfl arrival recognised_request
  cases heq
  exact ⟨hsuccessive, hdispatched, hpassed second (List.mem_singleton_self _)⟩

end PresentedTwice

end Neighbours
