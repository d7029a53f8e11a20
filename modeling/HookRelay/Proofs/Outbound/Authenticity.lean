import HookRelay.Proofs.Deployment
import HookRelay.Proofs.Outbound.Trail
import HookRelay.Proofs.Serving
import Mathlib.Logic.Relation

namespace HookRelay

/-- Work under way: what has been done so far, and how it goes on. -/
structure Job where
  Result : Type
  past : List Answered
  rest : Program Relay Result

structure Engine where
  site : Site
  jobs : List Job

/-- What the relay is put to; payloads come in normal form. -/
inductive Duty : {α : Type} → Program Relay α → Prop where
  | enqueue {payload : Json.Value} (normal : payload.normal = payload) (subscription : Subscription)
      (eventType : String) : Duty (Dispatch.enqueue subscription eventType payload).result
  | broadcast {payload : Json.Value} (normal : payload.normal = payload) (eventType : String) :
      Duty (Dispatch.broadcast eventType payload).result
  | process (policy : RetryPolicy) (id : Uuid) : Duty (Dispatch.process policy id).result
  | batch (settings : WorkerSettings) (policy : RetryPolicy) :
      Duty (Worker.batch settings policy).result
  | work (settings : WorkerSettings) (policy : RetryPolicy) (turns : Nat) :
      Duty (Worker.run settings policy turns)
  | sweep : Duty Sweep.once.result
  | sweeps (interval : Duration) (turns : Nat) : Duty (Sweep.run interval turns)

theorem Duty.behaves {α : Type} {program : Program Relay α} (duty : Duty program)
    (past : List Answered) : program.Behaves past := by
  cases duty with
  | enqueue normal subscription eventType =>
    exact Dispatch.enqueue_behaves normal subscription eventType past
  | broadcast normal eventType => exact Dispatch.broadcast_behaves normal eventType past
  | process policy id => exact Dispatch.process_behaves policy id past
  | batch settings policy => exact Worker.batch_behaves settings policy past
  | work settings policy turns => exact Worker.run_behaves settings policy turns past
  | sweep => exact Sweep.once_behaves past
  | sweeps interval turns => exact Sweep.run_behaves interval turns past

namespace Engine

def idle (site : Site) : Engine := ⟨site, []⟩

/-- What can happen next: something else than deliveries changes, a duty is taken up, or a job does what
it does next, which may fail. -/
inductive Step : Engine → Engine → Prop where
  | outside {site after : Site} {jobs : List Job}
      (same : after.store.deliveries = site.store.deliveries) :
      Step ⟨site, jobs⟩ ⟨after, jobs⟩
  | start {site : Site} {jobs : List Job} {α : Type} {program : Program Relay α}
      (duty : Duty program) : Step ⟨site, jobs⟩ ⟨site, jobs ++ [⟨α, [], program⟩]⟩
  | turn {site after : Site} {ahead behind : List Job} {α : Type} {past : List Answered}
      {effect : Effect} {next : effect.Reply → Program Relay α} {reply : effect.Reply}
      (turned : Conditions.anything.Turn effect site reply after) :
      Step ⟨site, ahead ++ ⟨α, past, .step effect next⟩ :: behind⟩
        ⟨after, ahead ++ ⟨α, past ++ [⟨effect, reply⟩], next reply⟩ :: behind⟩

end Engine

/-- Stored deliveries are kept under their ids, with payloads in normal form. -/
structure Site.Archived (site : Site) : Prop where
  filed : ∀ id record, site.store.deliveries.find? id = some record → record.id = id
  normal : ∀ id record, site.store.deliveries.find? id = some record →
    record.payload.normal = record.payload

def Site.Stores (site : Site) (id : Uuid) (payload : Json.Value) : Prop :=
  ∃ stored, site.store.deliveries.find? id = some stored ∧ stored.payload = payload

variable {site after : Site} {effect : Effect} {reply : effect.Reply} {past : List Answered}
  {conditions : Conditions}

theorem Conditions.turn_deliveries (turn : conditions.Turn effect site reply after)
    (creates : ∀ record, effect ≠ .store (.createDelivery record))
    (saves : ∀ record, effect ≠ .store (.saveDelivery record)) :
    after.store.deliveries = site.store.deliveries := by
  cases effect with
  | store call =>
    rcases turn with ⟨store, answered, _, rfl⟩ | ⟨_, _, rfl⟩
    · exact MemoryStore.answer?_deliveries answered
        (fun record same => creates record (congrArg Effect.store same))
        fun record same => saves record (congrArg Effect.store same)
    · rfl
  | queue call => rcases turn with ⟨queue, _, _, rfl⟩ | ⟨_, _, rfl⟩ <;> rfl
  | now => rw [turn.2]
  | halt => exact turn.elim
  | _ => rw [turn]

/-- What a job has loaded is stored with the payload that it had. -/
def Site.Knows (site : Site) (past : List Answered) : Prop :=
  ∀ id record, .loaded id record ∈ past → record.id = id ∧
    record.payload.normal = record.payload ∧ site.Stores id record.payload

theorem Site.Stores.unique {id : Uuid} {payload other : Json.Value}
    (stores : site.Stores id payload) (again : site.Stores id other) : payload = other := by
  obtain ⟨first, found, rfl⟩ := stores
  obtain ⟨second, held, rfl⟩ := again
  cases found.symm.trans held
  rfl

private theorem archived_of_same (archived : site.Archived)
    (same : ∀ id, after.store.deliveries.find? id = site.store.deliveries.find? id) :
    after.Archived ∧ ∀ id payload, site.Stores id payload → after.Stores id payload := by
  refine ⟨⟨fun id => same id ▸ archived.filed id, fun id => same id ▸ archived.normal id⟩, ?_⟩
  rintro id payload ⟨stored, found, rfl⟩
  exact ⟨stored, (same id).trans found, rfl⟩

private theorem archived_of_put {record : DeliveryRecord} (archived : site.Archived)
    (normal : record.payload.normal = record.payload)
    (fits : ∀ payload, site.Stores record.id payload → record.payload = payload)
    (put : ∀ id, after.store.deliveries.find? id =
      if record.id = id then some record else site.store.deliveries.find? id) :
    after.Archived ∧ ∀ id payload, site.Stores id payload → after.Stores id payload := by
  refine ⟨⟨fun id held found => ?_, fun id held found => ?_⟩, fun id payload stores => ?_⟩
  · rw [put] at found
    split at found
    · rename_i mine
      cases found
      exact mine
    · exact archived.filed id held found
  · rw [put] at found
    split at found
    · cases found
      exact normal
    · exact archived.normal id held found
  · by_cases mine : record.id = id
    · subst mine
      exact ⟨record, (put record.id).trans (if_pos rfl), fits payload stores⟩
    · obtain ⟨stored, found, same⟩ := stores
      exact ⟨stored, (put id).trans ((if_neg mine).trans found), same⟩

/-- A proper effect leaves all payloads as they are, and may add one. -/
theorem Site.Archived.turn (archived : site.Archived) (knows : site.Knows past)
    (proper : Proper past effect) (turned : Conditions.anything.Turn effect site reply after) :
    after.Archived ∧ ∀ id payload, site.Stores id payload → after.Stores id payload := by
  have records {id : Uuid} {dossier : Dossier} (same : after.dossier id = dossier) :
      after.store.deliveries.find? id = dossier.record := congrArg Dossier.record same
  by_cases creates : ∃ record, effect = .store (.createDelivery record)
  · obtain ⟨record, rfl⟩ := creates
    rcases Conditions.turn_createDelivery turned with ⟨_, absent, created⟩ | ⟨_, same⟩
    · refine archived_of_put archived proper ?_ fun id => (records (created id)).trans ?_
      · rintro payload ⟨stored, found, _⟩
        cases absent.symm.trans found
      · split <;> rfl
    · exact archived_of_same archived fun id => records (same id)
  by_cases saves : ∃ record, effect = .store (.saveDelivery record)
  · obtain ⟨record, rfl⟩ := saves
    -- Others may have saved since the record was loaded, but none of them another payload.
    obtain ⟨id, held, loaded, named, kept⟩ := proper
    obtain ⟨filed, normal, stores⟩ := knows id held loaded
    rcases Conditions.turn_saveDelivery turned with ⟨_, saved⟩ | ⟨_, same⟩
    · refine archived_of_put archived (kept ▸ normal) ?_ fun id => (records (saved id)).trans ?_
      · intro payload again
        rw [← filed, named] at stores
        exact kept.symm.trans (stores.unique again)
      · split <;> rfl
    · exact archived_of_same archived fun id => records (same id)
  have same := Conditions.turn_deliveries turned (fun record named => creates ⟨record, named⟩)
    fun record named => saves ⟨record, named⟩
  exact archived_of_same archived fun id => by rw [same]

theorem Site.Knows.later (knows : site.Knows past)
    (keeps : ∀ id payload, site.Stores id payload → after.Stores id payload) :
    after.Knows past := by
  intro id record loaded
  obtain ⟨filed, normal, stores⟩ := knows id record loaded
  exact ⟨filed, normal, keeps id record.payload stores⟩

/-- What is answered adds to what is known only when a delivery is loaded, and then it is stored. -/
theorem Site.Knows.turn (knows : site.Knows past) (archived : site.Archived)
    (turned : Conditions.anything.Turn effect site reply after)
    (keeps : ∀ id payload, site.Stores id payload → after.Stores id payload) :
    after.Knows (past ++ [⟨effect, reply⟩]) := by
  intro id record loaded
  rcases List.mem_append.mp loaded with before | new
  · exact knows.later keeps id record before
  · cases List.mem_singleton.mp new
    have found : site.store.deliveries.find? id = some record := by
      rcases (Conditions.turn_findDelivery turned).1 with told | ⟨error, failed, _⟩
      · exact (Except.ok.inj told).symm
      · cases failed
    exact ⟨archived.filed id record found, archived.normal id record found,
      keeps id record.payload ⟨record, found, rfl⟩⟩

/-- What holds of a job at every moment. -/
structure Job.Sound (site : Site) (job : Job) : Prop where
  behaves : job.rest.Behaves job.past
  proper : ∀ before answered later, job.past = before ++ answered :: later →
    Proper before answered.effect
  knows : site.Knows job.past

private theorem eq_or_exists_of_concat {last answered : Answered} {before later : List Answered}
    (split : past ++ [last] = before ++ answered :: later) :
    before = past ∧ answered = last ∨ ∃ rest, past = before ++ answered :: rest := by
  rcases List.eq_nil_or_concat later with rfl | ⟨rest, final, rfl⟩
  · obtain ⟨same, rest⟩ := List.append_inj' split rfl
    exact .inl ⟨same.symm, (List.singleton_inj.mp rest).symm⟩
  · have whole : past ++ [last] = before ++ answered :: rest ++ [final] := by simpa using split
    exact .inr ⟨rest, List.append_inj_left' whole rfl⟩

theorem Job.Sound.turn {α : Type} {next : effect.Reply → Program Relay α}
    (sound : Job.Sound site ⟨α, past, .step effect next⟩) (archived : site.Archived)
    (turned : Conditions.anything.Turn effect site reply after) :
    (after.Archived ∧ ∀ id payload, site.Stores id payload → after.Stores id payload) ∧
      Job.Sound after ⟨α, past ++ [⟨effect, reply⟩], next reply⟩ := by
  obtain ⟨proper, follows⟩ := sound.behaves past rfl
  have kept := archived.turn sound.knows proper turned
  refine ⟨kept, follows reply _ rfl, fun before answered later split => ?_, ?_⟩
  · rcases eq_or_exists_of_concat split with ⟨rfl, rfl⟩ | ⟨rest, earlier⟩
    · exact proper
    · exact sound.proper before answered rest earlier
  · exact sound.knows.turn archived turned kept.2

namespace Engine

structure Sound (engine : Engine) : Prop where
  archived : engine.site.Archived
  jobs : ∀ job ∈ engine.jobs, job.Sound engine.site

variable {engine last : Engine}

theorem Sound.step (sound : engine.Sound) (step : Step engine last) :
    last.Sound ∧ ∀ id payload, engine.site.Stores id payload → last.site.Stores id payload := by
  cases step with
  | outside same =>
    obtain ⟨archived, keeps⟩ := archived_of_same sound.archived fun id => by rw [same]
    refine ⟨⟨archived, fun job member => ?_⟩, keeps⟩
    obtain ⟨behaves, proper, knows⟩ := sound.jobs job member
    exact ⟨behaves, proper, knows.later keeps⟩
  | start duty =>
    refine ⟨⟨sound.archived, fun job member => ?_⟩, fun _ _ stores => stores⟩
    rcases List.mem_append.mp member with held | new
    · exact sound.jobs job held
    · cases List.mem_singleton.mp new
      exact ⟨duty.behaves [], fun before answered later split => by simp at split,
        fun id record loaded => absurd loaded List.not_mem_nil⟩
  | @turn site after ahead behind α past effect next reply turned =>
    have own := sound.jobs ⟨α, past, .step effect next⟩ (by simp)
    obtain ⟨⟨archived, keeps⟩, moved⟩ := own.turn sound.archived turned
    refine ⟨⟨archived, fun job member => ?_⟩, keeps⟩
    have others (held : job ∈ ahead ++ behind) : job.Sound after := by
      obtain ⟨behaves, proper, knows⟩ := sound.jobs job (by
        rcases List.mem_append.mp held with first | second
        · exact List.mem_append_left _ first
        · exact List.mem_append_right _ (List.mem_cons_of_mem _ second))
      exact ⟨behaves, proper, knows.later keeps⟩
    rcases List.mem_append.mp member with first | rest
    · exact others (List.mem_append_left _ first)
    · rcases List.mem_cons.mp rest with rfl | second
      · exact moved
      · exact others (List.mem_append_right _ second)

theorem Sound.run (sound : engine.Sound) (run : Relation.ReflTransGen Step engine last) :
    last.Sound ∧ ∀ id payload, engine.site.Stores id payload → last.site.Stores id payload := by
  induction run with
  | refl => exact ⟨sound, fun _ _ stores => stores⟩
  | tail earlier step ih =>
    obtain ⟨sound, keeps⟩ := ih
    obtain ⟨kept, further⟩ := sound.step step
    exact ⟨kept, fun id payload stores => further id payload (keeps id payload stores)⟩

/-- Every request of a run is that of an attempt as it was loaded: signed as it goes out with the secret
that is current then, at the time that its body shows, for a payload that stays stored as it was. -/
theorem sends_authentic {site : Site} (archived : site.Archived)
    (run : Relation.ReflTransGen Step (idle site) last) :
    (∀ job ∈ last.jobs, ∀ before request answer later,
      job.past = before ++ ⟨.send request, answer⟩ :: later →
        ∃ record subscription now begun,
          request.Attempts before record.id record subscription now begun ∧
          (∃ members, enrich subscription record now = .object members ∧ Json.Ordered members ∧
            ∀ key value, (key, value) ∈ members ↔
              bodyField? subscription record now key = some value) ∧
          last.site.Stores record.id record.payload) ∧
      ∀ id payload, site.Stores id payload → last.site.Stores id payload := by
  have idle_sound : (idle site).Sound := ⟨archived, fun job member => absurd member List.not_mem_nil⟩
  obtain ⟨sound, keeps⟩ := idle_sound.run run
  refine ⟨fun job member before request answer later split => ?_, keeps⟩
  obtain ⟨_, proper, knows⟩ := sound.jobs job member
  obtain ⟨id, record, subscription, now, begun, attempts⟩ :=
    proper before ⟨.send request, answer⟩ later split
  have loaded : .loaded id record ∈ job.past := by
    obtain ⟨earlier, ends⟩ := attempts.follows
    rw [split, ends]
    simp
  obtain ⟨rfl, normal, stores⟩ := knows id record loaded
  exact ⟨record, subscription, now, begun, attempts, enrich_members normal, stores⟩

/-- What a program is answered at a site that serves it. -/
private def served {α : Type} (answers : Nat → Except DeliveryError DeliveryResponse) :
    Program Relay α → Site → List Answered
  | .done _, _ => []
  | .step effect next, site =>
    match site.reply? answers effect with
    | some (reply, after) => ⟨effect, reply⟩ :: served answers (next reply) after
    | none => []

private theorem reaches_served {α : Type} (answers : Nat → Except DeliveryError DeliveryResponse)
    (program : Program Relay α) (past : List Answered) (site : Site) :
    ∃ after rest, Relation.ReflTransGen Step ⟨site, [⟨α, past, program⟩]⟩
      ⟨after, [⟨α, past ++ served answers program site, rest⟩]⟩ := by
  induction program generalizing past site with
  | done value => exact ⟨site, .done value, by simpa [served] using .refl⟩
  | step effect next ih =>
    simp only [served]
    split
    · rename_i reply after told
      obtain ⟨last, rest, reached⟩ := ih reply (past ++ [⟨effect, reply⟩]) after
      have step : Step ⟨site, [] ++ ⟨α, past, .step effect next⟩ :: []⟩
          ⟨after, [] ++ ⟨α, past ++ [⟨effect, reply⟩], next reply⟩ :: []⟩ :=
        .turn (Site.turn_of_reply? told)
      refine ⟨last, rest, .head step ?_⟩
      simpa using reached
    · exact ⟨site, .step effect next, by simpa using .refl⟩

private def isSend : Effect → Bool
  | .send _ => true
  | _ => false

/-- A site with one delivery, whose payload has members of its own and one that is taken. -/
private abbrev stocked : Site :=
  .untried .ofOrdersReplaced (.object [("event", .string "forged"), ("total", .nat 12)])

private theorem archived_stocked : stocked.Archived := by
  refine ⟨fun id record found => ?_, fun id record found => ?_⟩
  · obtain ⟨rfl, rfl⟩ := Site.find?_untried found
    rfl
  · obtain ⟨rfl, rfl⟩ := Site.find?_untried found
    rfl

/-- A request is sent while a previous secret is in its grace period. -/
theorem sends_authentic_in_grace : ∃ last job before request answer later,
    Relation.ReflTransGen Step (idle stocked) last ∧ job ∈ last.jobs ∧
      job.past = before ++ ⟨.send request, answer⟩ :: later ∧
      ∃ record subscription now begun,
        request.Attempts before record.id record subscription now begun := by
  obtain ⟨site, rest, reached⟩ := reaches_served (fun _ => .ok ⟨200, ""⟩)
    (Dispatch.process .standard ⟨0⟩).result [] stocked
  have start : Step (idle stocked)
      ⟨stocked, [] ++ [⟨_, [], (Dispatch.process .standard ⟨0⟩).result⟩]⟩ :=
    .start (.process .standard ⟨0⟩)
  have run := Relation.ReflTransGen.head start reached
  have sends : (served (fun _ => .ok ⟨200, ""⟩) (Dispatch.process .standard ⟨0⟩).result
      stocked).any (fun answered => isSend answered.effect) = true := by decide +kernel
  obtain ⟨⟨effect, answer⟩, found, sent⟩ := List.any_eq_true.mp sends
  cases effect with
  | send request =>
    obtain ⟨before, later, split⟩ := List.append_of_mem found
    obtain ⟨authentic, _⟩ := sends_authentic archived_stocked run
    obtain ⟨record, subscription, now, begun, attempts, _⟩ :=
      authentic _ List.mem_cons_self before request answer later split
    exact ⟨_, _, before, request, answer, later, run, List.mem_cons_self, split, record,
      subscription, now, begun, attempts⟩
  | _ => cases sent

end Engine

end HookRelay
