import ImageCatalog.Generator
import ImageCatalog.Proofs.Items
import ImageCatalog.Proofs.Results
import Mathlib.Data.List.Induction
import Mathlib.Data.List.Nodup

/-!
# Overlapping calls

Calls of a generator start and are answered in any order. A row of `Event`s says in which, and `run`
says what has become of a new generator and which results its calls have brought. An answer is given
as the network that the request of the call meets, so that every answer, every redirection and every
failure on the way is covered; answers to calls that do not wait change nothing.

`Waits` and `Brings` say without the state of the generator which calls wait and which results there
are: a call is found by the place of its start, its number is the number of starts up to that place,
and the first answer to the number after it is its own. The state agrees with both after every row
of events, which is proved event by event. Everything about numbers and current results follows.
-/

namespace ImageCatalog.Generator

open Http Items Text

/-- What happens to a generator: a call starts, or the network answers the call of a number. -/
inductive Event
  | start (config : Config) (values : ValueMap)
  | answer (number : Nat) (network : Network)

namespace Event

/-- Whether a call starts. -/
def isStart : Event → Bool
  | .start _ _ => true
  | .answer _ _ => false

/-- Whether the call of a number is answered. -/
def answers (number : Nat) : Event → Bool
  | .start _ _ => false
  | .answer other _ => other == number

end Event

/-- A generator, and the results that its calls have brought, first one first. -/
structure History where
  generator : Generator
  finished : List Generated

/-- What an event makes of a generator and its results. -/
def History.step (history : History) : Event → History
  | .start config values =>
      { history with generator := (history.generator.start config values).2 }
  | .answer number network =>
      match history.generator.pending? number with
      | none => history
      | some call =>
          match history.generator.deliver number (send network call.request.toQuery).1 with
          | (some (.ok result), generator) => ⟨generator, history.finished ++ [result]⟩
          | (_, generator) => ⟨generator, history.finished⟩

/-- What a row of events makes of a new generator. -/
def run (events : List Event) : History :=
  events.foldl History.step ⟨.new, []⟩

/-- The number of calls that start in a row of events. -/
def starts (events : List Event) : Nat :=
  events.countP Event.isStart

/-- Whether a reply to a request holds some images: a successful answer holds those that are read
from it, and there are none if the request brought nothing. -/
def HoldsImages (config : Config) (images : List String) : Except SendFault Fetched → Prop
  | .ok answer =>
      isSuccess answer.status = true ∧
        Image.extract config.description.image answer.headers answer.content = .ok images
  | .error _ => images = []

/-- A call with its number that has started and has not been answered. -/
def Waits (events : List Event) (number : Nat) (call : PendingCall) : Prop :=
  ∃ before values later,
    events = before ++ .start call.config values :: later ∧
    starts before + 1 = number ∧
    PreparedRequest.build call.config.description values = .ok call.request ∧
    ∀ event ∈ later, event.answers number = false

/-- A result of a call that has started and has been answered: its number is that of the start, its
name and its request are those of the configuration and the values that the call started with, and
its images are those in the first answer to the call. -/
def Brings (events : List Event) (result : Generated) : Prop :=
  ∃ before config values between network after,
    events = before ++ .start config values ::
      (between ++ .answer result.number network :: after) ∧
    starts before + 1 = result.number ∧
    (∀ event ∈ between, event.answers result.number = false) ∧
    result.name = config.name ∧
    PreparedRequest.build config.description values = .ok result.request ∧
    HoldsImages config result.images (send network result.request.toQuery).1

/-! ## Rows of events -/

theorem run_concat (events : List Event) (event : Event) :
    run (events ++ [event]) = (run events).step event := by
  simp [run]

theorem starts_append (events others : List Event) :
    starts (events ++ others) = starts events + starts others := by
  simp [starts]

theorem starts_cons_start (config : Config) (values : ValueMap) (events : List Event) :
    starts (.start config values :: events) = starts events + 1 :=
  List.countP_cons_of_pos rfl

theorem starts_eq_zero_iff (events : List Event) :
    starts events = 0 ↔ ∀ event ∈ events, event.isStart = false := by
  simp [starts, List.countP_eq_zero]

theorem starts_concat_start (events : List Event) (config : Config) (values : ValueMap) :
    starts (events ++ [.start config values]) = starts events + 1 := by
  simp [starts, Event.isStart]

theorem starts_concat_answer (events : List Event) (number : Nat) (network : Network) :
    starts (events ++ [.answer number network]) = starts events := by
  simp [starts, Event.isStart]

theorem waits_number_le {events : List Event} {number : Nat} {call : PendingCall}
    (waits : Waits events number call) : number ≤ starts events := by
  rcases waits with ⟨before, values, later, rfl, rfl, _⟩
  rw [starts_append, starts_cons_start]
  omega

/-- After a start the calls wait that waited before it, and the new one if its request is built. -/
theorem waits_concat_start {events : List Event} {config : Config} {values : ValueMap}
    {number : Nat} {call : PendingCall} :
    Waits (events ++ [.start config values]) number call ↔
      (number = starts events + 1 ∧ call.config = config ∧
        PreparedRequest.build config.description values = .ok call.request) ∨
      Waits events number call := by
  constructor
  · rintro ⟨before, chosen, later, equal, numbered, built, unanswered⟩
    rcases concat_eq_append_cons.mp equal with ⟨rfl, same, rfl⟩ | ⟨rest, rfl, rfl⟩
    · cases same
      exact .inl ⟨numbered.symm, rfl, built⟩
    · refine .inr ⟨before, chosen, rest, rfl, numbered, built, fun event eventMem => ?_⟩
      exact unanswered event (by simp [eventMem])
  · rintro (⟨rfl, rfl, built⟩ | ⟨before, chosen, later, rfl, numbered, built, unanswered⟩)
    · exact ⟨events, values, [], rfl, rfl, built, by simp⟩
    · refine ⟨before, chosen, later ++ [.start config values], by simp, numbered, built, ?_⟩
      intro event eventMem
      rcases List.mem_append.mp eventMem with earlier | last
      · exact unanswered event earlier
      · simp only [List.mem_singleton] at last
        rw [last]
        rfl

/-- After an answer the calls wait that waited before it, except the one that is answered. -/
theorem waits_concat_answer {events : List Event} {other : Nat} {network : Network}
    {number : Nat} {call : PendingCall} :
    Waits (events ++ [.answer other network]) number call ↔
      Waits events number call ∧ other ≠ number := by
  constructor
  · rintro ⟨before, chosen, later, equal, numbered, built, unanswered⟩
    rcases concat_eq_append_cons.mp equal with ⟨_, same, _⟩ | ⟨rest, rfl, rfl⟩
    · cases same
    · refine ⟨⟨before, chosen, rest, rfl, numbered, built, fun event eventMem => ?_⟩, ?_⟩
      · exact unanswered event (by simp [eventMem])
      · simpa [Event.answers] using unanswered (.answer other network) (by simp)
  · rintro ⟨⟨before, chosen, later, rfl, numbered, built, unanswered⟩, differs⟩
    refine ⟨before, chosen, later ++ [.answer other network], by simp, numbered, built, ?_⟩
    intro event eventMem
    rcases List.mem_append.mp eventMem with earlier | last
    · exact unanswered event earlier
    · simp only [List.mem_singleton] at last
      simpa [last, Event.answers] using differs

/-- A start brings no result. -/
theorem brings_concat_start {events : List Event} {config : Config} {values : ValueMap}
    {result : Generated} :
    Brings (events ++ [.start config values]) result ↔ Brings events result := by
  constructor
  · rintro ⟨before, chosen, values', between, network, after, equal, rest⟩
    rcases concat_eq_append_cons.mp equal with ⟨_, _, empty⟩ | ⟨later, split, rfl⟩
    · simp at empty
    · rcases concat_eq_append_cons.mp split.symm with ⟨_, same, _⟩ | ⟨after, rfl, rfl⟩
      · cases same
      · exact ⟨before, chosen, values', between, network, after, rfl, rest⟩
  · rintro ⟨before, chosen, values', between, network, after, rfl, rest⟩
    exact ⟨before, chosen, values', between, network, after ++ [.start config values],
      by simp, rest⟩

theorem finish_send_eq_ok_iff {call : PendingCall} {number : Nat} {network : Network}
    {result : Generated} :
    call.finish number (send network call.request.toQuery).1 = .ok result ↔
      result.number = number ∧ result.name = call.config.name ∧
        result.request = call.request ∧
        HoldsImages call.config result.images (send network call.request.toQuery).1 := by
  rcases result with ⟨name, number', request, images⟩
  cases sent : (send network call.request.toQuery).1 with
  | error fault =>
      simp only [PendingCall.finish, PendingCall.images, HoldsImages, Except.map, Except.ok.injEq,
        Generated.mk.injEq]
      constructor <;> rintro ⟨rfl, rfl, rfl, rfl⟩ <;> exact ⟨rfl, rfl, rfl, rfl⟩
  | ok answer =>
      have success := isSuccess_of_send sent
      simp only [PendingCall.finish, PendingCall.images, HoldsImages, success, true_and]
      cases Image.extract call.config.description.image answer.headers answer.content with
      | error overflow => simp [Except.map]
      | ok found =>
          simp only [Except.map, Except.ok.injEq, Generated.mk.injEq]
          constructor <;> rintro ⟨rfl, rfl, rfl, rfl⟩ <;> exact ⟨rfl, rfl, rfl, rfl⟩

/-- An answer to a call that waits brings the result of that call, and nothing else. -/
theorem brings_concat_answer {events : List Event} {number : Nat} {network : Network}
    {result : Generated} :
    Brings (events ++ [.answer number network]) result ↔
      Brings events result ∨
      ∃ call, Waits events number call ∧
        call.finish number (send network call.request.toQuery).1 = .ok result := by
  constructor
  · rintro ⟨before, config, values, between, met, after, equal, numbered, unanswered, named, built,
      images⟩
    rcases concat_eq_append_cons.mp equal with ⟨_, _, empty⟩ | ⟨later, split, rfl⟩
    · simp at empty
    · rcases concat_eq_append_cons.mp split.symm with ⟨rfl, same, rfl⟩ | ⟨after, rfl, rfl⟩
      · cases same
        exact .inr ⟨⟨config, result.request⟩,
          ⟨before, values, between, rfl, numbered, built, unanswered⟩,
          finish_send_eq_ok_iff.mpr ⟨rfl, named, rfl, images⟩⟩
      · exact .inl ⟨before, config, values, between, met, after, rfl, numbered, unanswered, named,
          built, images⟩
  · rintro (⟨before, config, values, between, met, after, rfl, rest⟩ | ⟨call, waits, finishes⟩)
    · exact ⟨before, config, values, between, met, after ++ [.answer number network], by simp, rest⟩
    · rcases waits with ⟨before, values, later, rfl, numbered, built, unanswered⟩
      rcases finish_send_eq_ok_iff.mp finishes with ⟨rfl, named, requested, images⟩
      rw [← requested] at built images
      exact ⟨before, call.config, values, later, network, [], by simp, numbered, unanswered, named,
        built, images⟩

/-! ## The state after a row of events -/

/-- The number of the last call is the number of starts, whether or not their requests are built. -/
theorem lastNumber_start (generator : Generator) (config : Config) (values : ValueMap) :
    (generator.start config values).2.lastNumber = generator.lastNumber + 1 := by
  unfold start
  cases PreparedRequest.build config.description values <;> rfl

/-- A call is given the number after the last one unless its request is not built. -/
theorem number_start (generator : Generator) (config : Config) (values : ValueMap) :
    (generator.start config values).1 =
      (PreparedRequest.build config.description values).map fun _ => generator.lastNumber + 1 := by
  unfold start
  cases PreparedRequest.build config.description values <;> rfl

/-- What an answer makes of the generator and its results. -/
theorem step_answer (history : History) (number : Nat) (network : Network) :
    history.step (.answer number network) =
      match history.generator.pending? number with
      | none => history
      | some call =>
          ⟨{ history.generator with pending := Entries.drop number history.generator.pending },
            history.finished ++
              (call.finish number (send network call.request.toQuery).1).toOption.toList⟩ := by
  cases waiting : history.generator.pending? number with
  | none => simp [History.step, waiting]
  | some call =>
      cases finished : call.finish number (send network call.request.toQuery).1 <;>
        simp [History.step, deliver, waiting, finished, Except.toOption]

theorem lastNumber_run (events : List Event) :
    (run events).generator.lastNumber = starts events := by
  induction events using List.reverseRecOn with
  | nil => rfl
  | append_singleton events event hypothesis =>
      rw [run_concat]
      cases event with
      | start config values =>
          rw [starts_concat_start, ← hypothesis]
          exact lastNumber_start _ config values
      | answer number network =>
          rw [starts_concat_answer, ← hypothesis, step_answer]
          cases (run events).generator.pending? number <;> rfl

theorem nodup_pending_run (events : List Event) :
    (Entries.keys (run events).generator.pending).Nodup := by
  induction events using List.reverseRecOn with
  | nil => exact List.nodup_nil
  | append_singleton events event hypothesis =>
      rw [run_concat]
      cases event with
      | start config values =>
          simp only [History.step, start]
          cases PreparedRequest.build config.description values with
          | error fault => exact hypothesis
          | ok request => exact Entries.nodup_keys_put hypothesis _ _
      | answer number network =>
          rw [step_answer]
          cases (run events).generator.pending? number with
          | none => exact hypothesis
          | some call => exact Entries.nodup_keys_drop hypothesis number

theorem pending?_start (generator : Generator) (config : Config) (values : ValueMap)
    (number : Nat) :
    (generator.start config values).2.pending? number =
      match PreparedRequest.build config.description values with
      | .error _ => generator.pending? number
      | .ok request =>
          if number = generator.lastNumber + 1 then some ⟨config, request⟩
          else generator.pending? number := by
  unfold start
  cases PreparedRequest.build config.description values with
  | error fault => rfl
  | ok request => exact Entries.find?_put _ number _ generator.pending

/-- Taking an answer leaves the calls of other numbers alone. -/
theorem pending?_step_answer {history : History}
    (distinct : (Entries.keys history.generator.pending).Nodup) (other number : Nat)
    (network : Network) :
    (history.step (.answer other network)).generator.pending? number =
      if other = number then none else history.generator.pending? number := by
  rw [step_answer]
  by_cases same : other = number
  · subst same
    cases waiting : history.generator.pending? other with
    | none => simp [waiting]
    | some call =>
        simp only [if_true]
        exact Entries.find?_drop_self distinct other
  · cases history.generator.pending? other with
    | none => simp [same]
    | some call =>
        simp only [same, if_false]
        exact Entries.find?_drop_of_ne (Ne.symm same) history.generator.pending

/-- The calls of the state are those that have started and have not been answered. -/
theorem pending?_run (events : List Event) (number : Nat) (call : PendingCall) :
    (run events).generator.pending? number = some call ↔ Waits events number call := by
  induction events using List.reverseRecOn with
  | nil => simp [run, pending?, new, Entries.find?, Waits]
  | append_singleton events event hypothesis =>
      rw [run_concat]
      cases event with
      | start config values =>
          rw [waits_concat_start, ← hypothesis]
          simp only [History.step, pending?_start, lastNumber_run]
          cases PreparedRequest.build config.description values with
          | error fault => simp
          | ok request =>
              by_cases last : number = starts events + 1
              · have fresh : (run events).generator.pending? number ≠ some call := by
                  intro waiting
                  have earlier := waits_number_le (hypothesis.mp waiting)
                  omega
                subst last
                rcases call with ⟨config', request'⟩
                simp [fresh, eq_comm]
              · simp [last]
      | answer other network =>
          rw [waits_concat_answer, ← hypothesis, pending?_step_answer (nodup_pending_run events)]
          by_cases same : other = number <;> simp [same]

/-- The results of the state are those that its calls bring. -/
theorem mem_finished_run (events : List Event) (result : Generated) :
    result ∈ (run events).finished ↔ Brings events result := by
  induction events using List.reverseRecOn with
  | nil => simp [run, Brings]
  | append_singleton events event hypothesis =>
      rw [run_concat]
      cases event with
      | start config values =>
          rw [brings_concat_start, ← hypothesis]
          rfl
      | answer number network =>
          rw [brings_concat_answer, ← hypothesis, step_answer]
          simp only [← pending?_run]
          cases waiting : (run events).generator.pending? number with
          | none => simp
          | some call =>
              cases finished : call.finish number (send network call.request.toQuery).1 with
              | error overflow => simp [Except.toOption, finished]
              | ok found => simp [Except.toOption, finished, eq_comm]

/-- The results of a step with an answer are the earlier ones and that of the answered call. -/
theorem finished_step_answer {events : List Event} {number : Nat} {network : Network}
    {call : PendingCall} (waiting : (run events).generator.pending? number = some call) :
    ((run events).step (.answer number network)).finished = (run events).finished ++
      (call.finish number (send network call.request.toQuery).1).toOption.toList := by
  simp only [step_answer, waiting]

/-- No call waits under the number of a result, and results have numbers of calls that started. -/
theorem settled_run {events : List Event} {result : Generated}
    (brought : result ∈ (run events).finished) :
    (run events).generator.pending? result.number = none ∧ result.number ≤ starts events := by
  induction events using List.reverseRecOn with
  | nil => simp [run] at brought
  | append_singleton events event hypothesis =>
      rw [run_concat] at brought ⊢
      cases event with
      | start config values =>
          rcases hypothesis brought with ⟨notWaiting, within⟩
          have older : result.number ≠ starts events + 1 := by omega
          rw [starts_concat_start]
          refine ⟨?_, by omega⟩
          simp only [History.step, pending?_start, lastNumber_run, older, if_false]
          cases PreparedRequest.build config.description values <;> exact notWaiting
      | answer number network =>
          rw [starts_concat_answer, pending?_step_answer (nodup_pending_run events)]
          cases waiting : (run events).generator.pending? number with
          | none =>
              simp only [step_answer, waiting] at brought
              simp [hypothesis brought]
          | some call =>
              rw [finished_step_answer waiting] at brought
              rcases List.mem_append.mp brought with earlier | last
              · simp [hypothesis earlier]
              · simp only [Option.mem_toList] at last
                have numbered := (finish_send_eq_ok_iff.mp (Results.eq_ok_of_toOption last)).1
                have within := waits_number_le ((pending?_run events number call).mp waiting)
                simp [numbered, within]

theorem nodup_numbers_run (events : List Event) :
    ((run events).finished.map Generated.number).Nodup := by
  induction events using List.reverseRecOn with
  | nil => simp [run]
  | append_singleton events event hypothesis =>
      rw [run_concat]
      cases event with
      | start config values => exact hypothesis
      | answer number network =>
          cases waiting : (run events).generator.pending? number with
          | none => simpa [step_answer, waiting] using hypothesis
          | some call =>
              rw [finished_step_answer waiting]
              cases finished : call.finish number (send network call.request.toQuery).1 with
              | error overflow => simpa [Except.toOption] using hypothesis
              | ok found =>
                  have numbered := (finish_send_eq_ok_iff.mp finished).1
                  have fresh : number ∉ (run events).finished.map Generated.number := by
                    intro taken
                    rcases List.mem_map.mp taken with ⟨earlier, earlierMem, same⟩
                    have notWaiting := (settled_run earlierMem).1
                    simp [same, waiting] at notWaiting
                  simp only [Except.toOption, Option.toList_some, List.map_append, List.map_cons,
                    List.map_nil, numbered]
                  rw [← List.concat_eq_append]
                  exact List.Nodup.concat fresh hypothesis

/-! ## Current results -/

/-- A result is current as long as no call has started after its own. -/
theorem isCurrent_iff_of_brings {events : List Event} {result : Generated}
    (brings : Brings events result) :
    ∃ before config values later,
      events = before ++ .start config values :: later ∧
      starts before + 1 = result.number ∧
      ((run events).generator.isCurrent result = true ↔
        ∀ event ∈ later, event.isStart = false) := by
  rcases brings with ⟨before, config, values, between, network, after, equal, numbered, _⟩
  refine ⟨before, config, values, _, equal, numbered, ?_⟩
  have counted : starts events = starts before +
      (starts (between ++ .answer result.number network :: after) + 1) := by
    rw [equal, starts_append, starts_cons_start]
  rw [← starts_eq_zero_iff, isCurrent, beq_iff_eq, lastNumber_run]
  omega

/-- Of results with distinct numbers at most one has the number of the last call. -/
theorem length_filter_isCurrent_le (generator : Generator) {results : List Generated}
    (distinct : (results.map Generated.number).Nodup) :
    (results.filter generator.isCurrent).length ≤ 1 := by
  have counted : (results.filter generator.isCurrent).length =
      (results.map Generated.number).count generator.lastNumber := by
    rw [List.count, List.countP_map, List.countP_eq_length_filter]
    rfl
  rw [counted]
  exact List.nodup_iff_count_le_one.mp distinct _

/-- Calls of one generator may start and be answered in any order. The calls are numbered in the
order of their starts, whether or not their requests are built; each brings the result of its own
configuration, values and first answer; and a result is current exactly until a later call starts,
so that at most one is current and none becomes current again. -/
theorem overlapping_calls (events : List Event) :
    (∀ config values,
      ((run events).generator.start config values).1 =
        (PreparedRequest.build config.description values).map (fun _ => starts events + 1) ∧
      ((run events).generator.start config values).2.lastNumber = starts events + 1) ∧
    (∀ number call,
      (run events).generator.pending? number = some call ↔ Waits events number call) ∧
    (∀ result, result ∈ (run events).finished ↔ Brings events result) ∧
    (∀ result ∈ (run events).finished, ∃ before config values later,
      events = before ++ .start config values :: later ∧
      starts before + 1 = result.number ∧
      ((run events).generator.isCurrent result = true ↔
        ∀ event ∈ later, event.isStart = false)) ∧
    ((run events).finished.filter (run events).generator.isCurrent).length ≤ 1 ∧
    (∀ later, ∀ result ∈ (run events).finished,
      (run events).generator.isCurrent result = false →
        (run (events ++ later)).generator.isCurrent result = false) := by
  refine ⟨fun config values => ⟨?_, ?_⟩, pending?_run events, mem_finished_run events,
    fun result brought => isCurrent_iff_of_brings ((mem_finished_run events result).mp brought),
    length_filter_isCurrent_le _ (nodup_numbers_run events), ?_⟩
  · rw [number_start, lastNumber_run]
  · rw [lastNumber_start, lastNumber_run]
  · intro later result brought stale
    have within := (settled_run brought).2
    rw [isCurrent, beq_eq_false_iff_ne, lastNumber_run] at stale ⊢
    rw [starts_append]
    omega

/-- A service that answers with links and has no parameters. -/
def linkService : Config :=
  ⟨"links", "local",
    { title := "", intro := "", icon := none, link := "https://links.test", verb := "get"
      parameters := [], image := ⟨.url, none⟩ }⟩

/-- The second call is answered with a link before the first one fails. -/
def crossedCalls : List Event :=
  [.start linkService [], .start linkService [],
    .answer 2 fun _ => .answered ⟨200, [], [0x68, 0x74, 0x74, 0x70]⟩,
    .answer 1 fun _ => .failed "ReadTimeout" ""]

theorem overlapping_calls_crossed :
    (run crossedCalls).finished =
      [⟨"links", 2, ⟨"https://links.test", "GET", none, []⟩, ["http"]⟩,
        ⟨"links", 1, ⟨"https://links.test", "GET", none, []⟩, []⟩] ∧
    ∀ result ∈ (run crossedCalls).finished, ∃ before config values later,
      crossedCalls = before ++ .start config values :: later ∧
      starts before + 1 = result.number ∧
      ((run crossedCalls).generator.isCurrent result = true ↔
        ∀ event ∈ later, event.isStart = false) :=
  ⟨by decide +kernel, (overlapping_calls crossedCalls).2.2.2.1⟩

end ImageCatalog.Generator
