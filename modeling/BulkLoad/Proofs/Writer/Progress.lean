import BulkLoad.Proofs.Writer.Accounts
import BulkLoad.Proofs.Writer.Handoff

/-!
# Exact totals

The totals of a writer count exactly the batches that were accepted, and each rejection is reported with the totals
before it. A channel writer has seen to that itself (`ChannelWriter.Exact`). A pipelined writer on top of it only knows
what it is told: its totals are those that the answers give (`Handoff.UpToDate`), and the answers tell of the batches in
the order in which they were sent (`ToldAll`, `Handoff.Serves`). So its totals are exact too as soon as no answer is due
(`Handoff.Exact`), however the threads interleave.

- `progress_counts_accepted`: the totals of both writers are exact.
-/

namespace BulkLoad

open List

/-! ## What is told of some batches -/

/-- What a writer tells about batches that it sends one after the other. -/
inductive ToldAll (strict : Bool) : List (Batch × SendResult) → List Reply → Prop
  | nil : ToldAll strict [] []
  | concat {sent : List (Batch × SendResult)} {rs : List Reply} {x : Batch × SendResult} {r : Reply} :
      ToldAll strict sent rs → Told strict sent x r → ToldAll strict (sent ++ [x]) (rs ++ [r])

namespace ToldAll

variable {strict : Bool} {sent : List (Batch × SendResult)} {rs rs' : List Reply} {r : Reply}

/-- Whoever hears it all has the totals. -/
theorem totals (h : ToldAll strict sent rs) : rs.foldl Reply.totals {} = accounts strict sent := by
  induction h with
  | nil => rfl
  | concat _ htold ih => rw [foldl_concat, ih, htold.totals]

theorem length_eq (h : ToldAll strict sent rs) : sent.length = rs.length := by
  induction h with
  | nil => rfl
  | concat _ _ ih => simp [ih]

/-- Each of the answers tells about the batch that was sent at its place. -/
theorem at_place (h : ToldAll strict sent (rs ++ r :: rs')) :
    ∃ before x, before ++ [x] <+: sent ∧ before.length = rs.length ∧ Told strict before x r := by
  generalize hall : rs ++ r :: rs' = all at h
  induction h generalizing rs' with
  | nil => simp at hall
  | @concat sent told x r' h htold ih =>
    rcases eq_nil_or_concat rs' with rfl | ⟨rs'', r'', rfl⟩
    · obtain ⟨rfl, hr⟩ := append_inj' hall rfl
      rw [singleton_inj.mp hr]
      exact ⟨sent, x, prefix_rfl, h.length_eq, htold⟩
    · have hall' : (rs ++ r :: rs'') ++ [r''] = told ++ [r'] := by simpa using hall
      obtain ⟨before, y, hprefix, hlength, hy⟩ := ih (append_inj' hall' rfl).1
      exact ⟨before, y, hprefix.trans (prefix_append _ _), hlength, hy⟩

end ToldAll

/-! ## What the calls hear -/

/-- A batch that a call has passed on has records. -/
theorem Exchange.full_of_passed {e : Exchange} {b : Batch} (h : e.passed? = some b) : b.isEmpty = false := by
  unfold Exchange.passed? at h
  split at h
  · split at h
    · cases h
    · next hb =>
      cases h
      exact Bool.eq_false_iff.mpr hb
  · cases h

/-- Before a call that takes an answer, one batch more has been passed on than answered. -/
theorem Answered.length_passed {e : Exchange} {es' : List Exchange} : ∀ {es : List Exchange} {due : Bool},
    Answered due (es ++ e :: es') → (es.filterMap Exchange.answer).length + e.answer.toList.length =
      due.toNat + (es.filterMap Exchange.passed?).length
  | [], due, h => by
    rw [← h.1]
    cases e.answer <;> rfl
  | e₀ :: es, due, h => by
    have ih := Answered.length_passed h.2.2
    rw [← h.1]
    cases hanswer : e₀.answer <;> cases hpassed : e₀.passed? <;>
      simp [hanswer, hpassed] at ih ⊢ <;> omega

namespace Handoff

section Heard

variable {ω τ : Type} {inner : Writer ω τ} {s s' : Handoff ω τ} {before : Progress}

/-- The answers that calls have taken. -/
def heard (s : Handoff ω τ) : List Reply := s.returned.filterMap Exchange.answer ++ s.phase.answer?.toList

/-- The totals are those that the answers give. -/
def UpToDate (before : Progress) (s : Handoff ω τ) : Prop := s.progress = s.heard.foldl Reply.totals before

theorem UpToDate.complete (h : s.UpToDate before) {a : Option Reply} (hanswer : s.phase.answer? = a) (q : WriterCall)
    (result : Except BulkError Unit) : (s.complete q a result).UpToDate before := by
  have hheard : (s.complete q a result).heard = s.heard := by
    unfold heard
    rw [hanswer]
    cases a <;> simp [Handoff.complete, Phase.answer?]
  rw [UpToDate, hheard]
  exact h

/-- A call goes on with the answer that it has. -/
theorem UpToDate.moves (h : s.UpToDate before) (hprogress : s'.progress = s.progress)
    (hreturned : s'.returned = s.returned) (hanswer : s'.phase.answer? = s.phase.answer?) : s'.UpToDate before := by
  rw [UpToDate, heard, hprogress, hreturned, hanswer]
  exact h

/-- A call takes an answer. -/
theorem UpToDate.takes (h : s.UpToDate before) {r : Reply} (hprogress : s'.progress = r.totals s.progress)
    (hreturned : s'.returned = s.returned) (hnone : s.phase.answer? = none) (hanswer : s'.phase.answer? = some r) :
    s'.UpToDate before := by
  have hheard : s'.heard = s.heard ++ [r] := by simp [heard, hreturned, hnone, hanswer]
  rw [UpToDate, hheard, hprogress, h, foldl_concat]

theorem UpToDate.produces (h : s.UpToDate before) (hstep : Produces inner s s') : s'.UpToDate before := by
  cases hstep with
  | call hphase | expect hphase | offer hphase | rendezvous hphase | letGo hphase =>
    exact h.moves rfl rfl (by rw [hphase]; rfl)
  | receive hphase => exact h.takes rfl rfl (by rw [hphase]; rfl) rfl
  | disconnect hphase => exact h.takes rfl rfl (by rw [hphase]; rfl) rfl
  | acknowledged hphase | refuse hphase | skip hphase | writeClosed hphase | unheard hphase | closeAgain hphase
  | joinCrashed hphase => exact h.complete (by rw [hphase]; rfl) _ _
  | pass hphase => exact (h.complete (by rw [hphase]; rfl) _ _).moves rfl rfl rfl
  | join hphase => exact (h.complete (by rw [hphase]; rfl) _ _).moves rfl rfl rfl

theorem UpToDate.step (h : s.UpToDate before) (hstep : Step inner s s') : s'.UpToDate before :=
  hstep.elim h.produces fun hworks => by cases hworks <;> exact h.moves rfl rfl rfl

/-- **The totals are those that the answers give**, however the threads interleave. -/
theorem upToDate_of_steps {w : ω} {t : τ} {calls : List WriterCall} (h : Steps inner (start inner w t calls) s) :
    s.UpToDate (inner.progress w) := by
  induction h with
  | refl => rfl
  | tail _ hstep ih => exact ih.step hstep

/-! ## When no answer is due -/

/-- The worker takes batches with records only. -/
theorem Recorded.full (h : s.Recorded) (hs : s.Sound) : ∀ b ∈ s.taken, b.isEmpty = false := by
  intro b hb
  rw [h.passed, mem_append, mem_filterMap, Option.mem_toList] at hb
  rcases hb with ⟨e, _, he⟩ | hhanded
  · exact e.full_of_passed he
  · cases hphase : s.phase with
    | handed b' a =>
      obtain rfl : b' = b := by simpa [hphase, Phase.handed?] using hhanded
      simp only [Sound, hphase] at hs
      exact hs.2.2.2.2.2
    | _ => simp [hphase, Phase.handed?] at hhanded

/-- The inner writer has got all the batches that were passed on, -/
theorem Recorded.got_of_due (h : s.Recorded) (hs : s.Sound) (hdue : s.due = false) :
    s.written.map Prod.fst = s.returned.filterMap Exchange.passed? := by
  have hhanded : s.phase.handed? = none := by
    cases hphase : s.phase with
    | handed b a => rw [due, hphase] at hdue; cases hdue
    | _ => rfl
  have hheld : s.worker.held? = none := by
    have hunloaded := hs.unloaded_of_due hdue
    cases hworker : s.worker with
    | holding w b => rw [hworker] at hunloaded; cases hunloaded
    | _ => rfl
  have hgot := h.got
  rw [h.passed, hhanded, hheld] at hgot
  simpa using hgot.symm

/-- and calls have taken all its answers. -/
theorem Recorded.answered_of_due (h : s.Recorded) (hs : s.Sound) (hdue : s.due = false) :
    s.written.map Prod.snd = s.heard := by
  have howed : s.owed? = none := by
    have hunloaded := hs.unloaded_of_due hdue
    unfold owed?
    cases hworker : s.worker with
    | ready w => exact hunloaded.slot_eq
    | replying w r => rw [hworker] at hunloaded; cases hunloaded
    | unwinding | crashed => simp [hdue]
    | _ => rfl
  rw [h.answered, howed, Option.toList_none, append_nil, heard]

end Heard

end Handoff

/-! ## Failures -/

theorem answer_of_waitedFor {a : Option Reply} {k : Nat} {progress : Progress} {source : DriverError}
    (h : waitedFor a = .error (.databaseWrite k progress source)) :
    a = some (.failed (.databaseWrite k progress source)) := by
  cases a with
  | none => cases h
  | some r =>
    cases r with
    | failed e => rw [Except.error.inj h]
    | done _ | lost => cases h

/-- What is done after waiting has not failed in this way. -/
theorem waitedFor_of_bind {a : Option Reply} {next : Unit → Except BulkError Unit} {e : BulkError}
    (h : (waitedFor a).bind next = .error e) (hnext : next () ≠ .error e) : waitedFor a = .error e := by
  cases hwaited : waitedFor a with
  | error e' => rwa [hwaited] at h
  | ok _ =>
    rw [hwaited] at h
    exact absurd h hnext

section Failures

variable {τ κ : Type} [Target τ κ] {k : Nat} {progress : Progress} {source : DriverError}

/-- A call on a pipelined writer fails with the rejection of a batch only if it is told so. -/
theorem WriterCall.answer_of_run {q : WriterCall} {p : Pipelined (ChannelWriter κ)} {t : τ}
    (h : ((q.run (direct τ) p).out t).1.1 = .error (.databaseWrite k progress source)) :
    p.answer? = some (.failed (.databaseWrite k progress source)) := by
  refine answer_of_waitedFor ?_
  cases q with
  | wait =>
    rw [out_run_wait] at h
    exact h
  | write b =>
    cases hwaited : waitedFor p.answer? with
    | error e =>
      rw [out_run_write_of_error hwaited] at h
      exact h
    | ok _ =>
      exfalso
      cases hb : b.isEmpty with
      | true =>
        rw [out_run_write_of_empty hwaited hb] at h
        cases h
      | false =>
        cases hw : p.worker with
        | running w =>
          rw [out_run_write_of_running hwaited hb hw rfl] at h
          cases h
        | crashed | stopped =>
          rw [out_run_write_of_not_running hwaited hb (by rw [hw]; exact nofun)] at h
          cases h
  | close =>
    cases hw : p.worker with
    | running w =>
      rw [out_run_close_of_running hw] at h
      refine waitedFor_of_bind h fun hclose => ?_
      obtain ⟨_, he⟩ := ChannelWriter.channelClose_of_close hclose
      cases he
    | crashed =>
      rw [out_run_close_of_crashed hw] at h
      exact waitedFor_of_bind h nofun
    | stopped =>
      rw [out_run_close_of_stopped hw] at h
      exact h

theorem answer_of_replay : ∀ (qs : List WriterCall) (p : Pipelined (ChannelWriter κ)) (t : τ),
    ∀ e ∈ replay (direct τ) p t qs, e.result = .error (.databaseWrite k progress source) →
      e.answer = some (.failed (.databaseWrite k progress source))
  | [], _, _ => forall_mem_nil _
  | _ :: qs, _, _ => forall_mem_cons.mpr ⟨WriterCall.answer_of_run, answer_of_replay qs _ _⟩

end Failures

/-! ## The inner writer -/

/-- The statements that a target has got, with the answers to them. -/
def Journaled.sends {τ : Type} (t : Journaled τ) : List Made := t.made.filter fun m => m.call.isSend

/-- The inner writer, as long as it has not broken down. -/
def WorkerLoop.inner? {ω : Type} : WorkerLoop ω → Option ω
  | ready w | holding w _ | replying w _ | finished w => some w
  | unwinding | crashed => none

theorem WorkerLoop.inner?_after {ω τ : Type} {inner : Writer ω τ} {attempt : Attempt} {w w' : ω}
    (h : (WorkerLoop.after inner attempt w).inner? = some w') : w' = w := by
  cases attempt with
  | written | failed => exact (Option.some.inj h).symm
  | crashed => cases h

section Inner

variable {τ κ : Type} [Target τ κ]

/-- Closing a channel is no statement. -/
theorem ChannelWriter.sends_close (w : ChannelWriter κ) (t : Journaled τ) : ((w.close).out t).2.sends = t.sends := by
  cases hclosed : w.closed with
  | true =>
    unfold ChannelWriter.close
    rw [hclosed, if_pos rfl]
    rfl
  | false =>
    obtain ⟨answer, hmade⟩ := Insert.made_close hclosed t
    rw [Journaled.sends, hmade, filter_append]
    exact append_nil _

namespace Handoff

/-- The inner writer `w` has sent what it has got, and has told what became of it. It keeps its accounts. -/
structure Serves (w : ChannelWriter κ) (t : Journaled τ) (sent : List (Batch × SendResult))
    (s : Handoff (ChannelWriter κ) (Journaled τ)) : Prop where
  got : s.written.map Prod.fst = sent.map Prod.fst
  told : ToldAll w.strict sent (s.written.map Prod.snd)
  keeps : ∀ w', s.worker.inner? = some w' → w' = w.having sent
  sends : s.target.sends = t.sends ++ sent.map (Made.sent w.header)

variable {w : ChannelWriter κ} {t : Journaled τ} {sent : List (Batch × SendResult)}
  {s s' : Handoff (ChannelWriter κ) (Journaled τ)} {calls : List WriterCall}

omit [Target τ κ] in
/-- Nothing of this changes as long as the inner writer does nothing but close its channel. -/
theorem Serves.moves (h : Serves w t sent s) (hwritten : s'.written = s.written)
    (hworker : ∀ w', s'.worker.inner? = some w' → s.worker.inner? = some w')
    (hsends : s'.target.sends = s.target.sends) : Serves w t sent s' where
  got := by rw [hwritten]; exact h.got
  told := by rw [hwritten]; exact h.told
  keeps w' hw' := h.keeps w' (hworker w' hw')
  sends := hsends.trans h.sends

theorem Serves.produces (h : Serves w t sent s) (hstep : Produces (direct (Journaled τ)) s s') : Serves w t sent s' := by
  cases hstep with
  | rendezvous _ hworker => exact h.moves rfl (fun w' hw' => by rw [hworker]; exact hw') rfl
  | join _ _ => exact h.moves rfl (fun _ => id) (ChannelWriter.sends_close _ _)
  | _ => exact h.moves rfl (fun _ => id) rfl

theorem Serves.works (h : Serves w t sent s) (hs : s.Sound) (hr : s.Recorded)
    (hstep : Works (direct (Journaled τ)) s s') : ∃ sent', Serves w t sent' s' := by
  cases hstep with
  | @write v w' b attempt t' hworker hwrite =>
    have hfull : b.isEmpty = false := hr.full hs b (by rw [hr.got, hworker]; exact mem_append_right _ (mem_singleton_self b))
    obtain rfl := h.keeps v (by rw [hworker]; rfl)
    obtain ⟨a, attempt', t'', hout, hmade, htold⟩ := ChannelWriter.write_having w sent hfull s.target
    have hsame : ((attempt', w.having (sent ++ [(b, a)])), t'') = ((attempt, w'), t') := hout.symm.trans hwrite
    cases hsame
    refine ⟨sent ++ [(b, a)], ?_, ?_, fun _ => WorkerLoop.inner?_after, ?_⟩
    · simp [h.got]
    · rw [map_append]
      exact h.told.concat htold
    · show Journaled.sends _ = _
      rw [Journaled.sends, hmade, filter_append, map_append, ← append_assoc, ← h.sends]
      rfl
  | reply hworker _ => exact ⟨sent, h.moves rfl (fun w' hw' => by rw [hworker]; exact hw') rfl⟩
  | leave hworker _ => exact ⟨sent, h.moves rfl (fun w' hw' => by rw [hworker]; exact hw') rfl⟩
  | unwind _ => exact ⟨sent, h.moves rfl nofun rfl⟩

/-- **The inner writer keeps its accounts**, however the threads interleave. -/
theorem serves_of_steps (hfresh : w = w.having [])
    (h : Steps (direct (Journaled τ)) (start (direct (Journaled τ)) w t calls) s) : ∃ sent, Serves w t sent s := by
  induction h with
  | refl =>
    exact ⟨[], rfl, .nil, fun w' hw' => (Option.some.inj hw').symm.trans hfresh, (append_nil _).symm⟩
  | tail hsteps hstep ih =>
    obtain ⟨sent, hserves⟩ := ih
    have hkept := (kept_start (direct (Journaled τ)) w t calls).steps hsteps
    rcases hstep with hstep | hstep
    · exact ⟨sent, hserves.produces hstep⟩
    · exact hserves.works hkept.sound hkept.recorded hstep

end Handoff

end Inner

/-! ## Both writers -/

section Exact

variable {τ κ : Type} [Target τ κ]

/-- A channel writer that got the batches has sent those with records, in their order, and counts those that were
accepted. Of any further batch it does the same. -/
structure ChannelWriter.Exact (w : ChannelWriter κ) (t : Journaled τ) (batches : List Batch)
    (sent : List (Batch × SendResult)) (out : ChannelWriter κ × Journaled τ) : Prop where
  passed : sent.map Prod.fst = batches.filter fun b => !b.isEmpty
  made : out.2.made = t.made ++ sent.map (Made.sent w.header)
  counted : out.1.progress = accounts w.strict sent
  skips : ∀ b, b.isEmpty = true → (out.1.write b).out out.2 = ((.written, out.1), out.2)
  sends : ∀ b, b.isEmpty = false → ∃ a attempt w' t', (out.1.write b).out out.2 = ((attempt, w'), t') ∧
    t'.made = out.2.made ++ [Made.sent w.header (b, a)] ∧ w'.progress = accounts w.strict (sent ++ [(b, a)]) ∧
    Told w.strict sent (b, a) (attempt.reply w'.progress)

/-- A pipelined writer on top of a channel writer has sent the batches that were passed on, in their order, and counts
those that were accepted. -/
structure Handoff.Exact (w : ChannelWriter κ) (t : Journaled τ) (sent : List (Batch × SendResult))
    (s : Handoff (ChannelWriter κ) (Journaled τ)) : Prop where
  passed : sent.map Prod.fst = s.returned.filterMap Exchange.passed?
  sends : s.target.sends = t.sends ++ sent.map (Made.sent w.header)
  counted : s.progress = accounts w.strict sent
  /-- The answer that a call takes is to the batch that was passed on last. -/
  told : ∀ es e es', s.returned = es ++ e :: es' → ∀ r, e.answer = some r → ∃ before x, before ++ [x] <+: sent ∧
    (before ++ [x]).map Prod.fst = es.filterMap Exchange.passed? ∧ Told w.strict before x r
  /-- A call fails with the rejection of a batch only if that is the answer. -/
  raised : ∀ e ∈ s.returned, ∀ k progress source, e.result = .error (.databaseWrite k progress source) →
    e.answer = some (.failed (.databaseWrite k progress source))

theorem ChannelWriter.exact_writeAll {w : ChannelWriter κ} (hfresh : w = w.having []) (t : Journaled τ)
    (batches : List Batch) : ∃ sent, w.Exact t batches sent (((direct (Journaled τ)).writeAll batches w).out t) := by
  obtain ⟨sent, t', hout, hsent, hmade⟩ := w.writeAll_having batches [] t
  rw [← hfresh, nil_append] at hout
  rw [hout]
  refine ⟨sent, hsent, hmade, rfl, fun b hb => write_having_of_empty _ hb t', fun b hb => ?_⟩
  obtain ⟨a, attempt, t'', hwrite, hmade', htold⟩ := w.write_having sent hb t'
  exact ⟨a, attempt, _, t'', hwrite, hmade', rfl, htold⟩

/-- **When no answer is due, the totals of a pipelined writer are exact.** -/
theorem Handoff.exact_of_steps {w : ChannelWriter κ} {t : Journaled τ} {calls : List WriterCall}
    {s : Handoff (ChannelWriter κ) (Journaled τ)} (hfresh : w = w.having [])
    (hsteps : Steps (direct (Journaled τ)) (start (direct (Journaled τ)) w t calls) s) (hdue : s.due = false) :
    ∃ sent, s.Exact w t sent := by
  obtain ⟨sent, hserves⟩ := serves_of_steps hfresh hsteps
  have hkept := (kept_start (direct (Journaled τ)) w t calls).steps hsteps
  have hpassed : sent.map Prod.fst = s.returned.filterMap Exchange.passed? :=
    hserves.got.symm.trans (hkept.recorded.got_of_due hkept.sound hdue)
  have htold : ToldAll w.strict sent s.heard := hkept.recorded.answered_of_due hkept.sound hdue ▸ hserves.told
  have hanswered : Answered false s.returned := (answered_replay _ calls (.spawn _ w) t).mono hkept.agrees
  refine ⟨sent, hpassed, hserves.sends, ?_, fun es e es' hes r hr => ?_, fun e he k progress source => ?_⟩
  · have hprogress := upToDate_of_steps hsteps
    rw [hfresh] at hprogress
    exact hprogress.trans htold.totals
  · have hheard : s.heard = es.filterMap Exchange.answer ++
        r :: (es'.filterMap Exchange.answer ++ s.phase.answer?.toList) := by
      simp [heard, hes, hr]
    obtain ⟨before, x, hbegins, hlength, hx⟩ := (hheard ▸ htold).at_place
    refine ⟨before, x, hbegins, ?_, hx⟩
    -- As many batches have been passed on before the call as have been answered when it has taken its answer.
    have hes' : es.filterMap Exchange.passed? <+: sent.map Prod.fst := by
      rw [hpassed, hes, filterMap_append]
      exact prefix_append _ _
    have hlast : ((before ++ [x]).map Prod.fst).length = (es.filterMap Exchange.passed?).length := by
      have hbalance := (hes ▸ hanswered).length_passed
      simpa [hr, hlength] using hbalance
    exact (prefix_of_prefix_length_le (hbegins.map Prod.fst) hes' hlast.le).eq_of_length hlast
  · exact answer_of_replay calls _ t e (hkept.agrees.subset he)

/-- **The totals count exactly the accepted batches.** Whatever the channel answers, a new channel writer sends the
batches with records in their order and counts those that were acknowledged, with enough rows if it is strict. The
rejection of a batch carries its number and the totals before it. So it is with a pipelined writer on top of a channel
writer as soon as no answer is due, however the threads interleave. -/
theorem progress_counts_accepted (channel : κ) (header : String) (strict : Bool) (t : Journaled τ) :
    let w : ChannelWriter κ := { channel, header, strict }
    (∀ batches, ∃ sent, w.Exact t batches sent (((direct (Journaled τ)).writeAll batches w).out t)) ∧
      ∀ calls s, Handoff.Steps (direct (Journaled τ)) (Handoff.start (direct (Journaled τ)) w t calls) s →
        s.due = false → ∃ sent, s.Exact w t sent :=
  ⟨ChannelWriter.exact_writeAll rfl t, fun _ _ => Handoff.exact_of_steps rfl⟩

/-- A strict writer gets four batches, the second of which is empty. The third one is acknowledged without its row. A
pipelined writer on top of such a writer tells so when the fourth one is to be written, which is not passed on. -/
theorem progress_counts_accepted_skipping :
    let w : ChannelWriter Unit := { channel := (), header := "COPY t (id) FROM STDIN", strict := true }
    let t : Journaled Scripted := { target := { script := { sends := [.ack none none, .ack (some 0) (some 1)] } } }
    let batches := [Handoff.oneRecord 1, ⟨2, 0, []⟩, Handoff.oneRecord 3, Handoff.oneRecord 4]
    let one : Progress := ⟨1, 1, 2, 1⟩
    let out := ((direct (Journaled Scripted)).writeAll batches w).out t
    (out.1.progress = ⟨2, 2, 4, 2⟩ ∧ ∃ sent, w.Exact t batches sent out) ∧
      ∃ s, Handoff.Steps (direct (Journaled Scripted))
          (Handoff.start (direct (Journaled Scripted)) w t (batches.map .write)) s ∧
        s.due = false ∧ s.progress = one ∧ s.returned.map Exchange.result = [.ok (), .ok (), .ok (),
          .error (.databaseWrite 3 one (ChannelWriter.skippedRows (Handoff.oneRecord 3) ⟨0, 1⟩))] ∧
        ∃ sent, s.Exact w t sent := by
  intro w t batches one out
  have htotals := progress_counts_accepted (τ := Scripted) () "COPY t (id) FROM STDIN" true t
  have h : Handoff.Steps (direct (Journaled Scripted))
    (Handoff.start (direct (Journaled Scripted)) w t (batches.map .write)) _ := .refl
  replace h := h.tail (Or.inl (.call rfl rfl rfl))
  replace h := h.tail (Or.inl (.offer rfl rfl rfl rfl))
  replace h := h.tail (Or.inl (.rendezvous rfl rfl))
  replace h := h.tail (Or.inl (.pass rfl))
  replace h := h.tail (Or.inl (.expect rfl rfl rfl))
  replace h := h.tail (Or.inr (.write rfl rfl))
  replace h := h.tail (Or.inr (.reply rfl rfl))
  replace h := h.tail (Or.inl (.receive rfl rfl))
  replace h := h.tail (Or.inl (.skip rfl rfl rfl))
  replace h := h.tail (Or.inl (.call rfl rfl rfl))
  replace h := h.tail (Or.inl (.offer rfl rfl rfl rfl))
  replace h := h.tail (Or.inl (.rendezvous rfl rfl))
  replace h := h.tail (Or.inr (.write rfl rfl))
  replace h := h.tail (Or.inr (.reply rfl rfl))
  replace h := h.tail (Or.inl (.pass rfl))
  replace h := h.tail (Or.inl (.expect rfl rfl rfl))
  replace h := h.tail (Or.inl (.receive rfl rfl))
  replace h := h.tail (Or.inl (.refuse rfl rfl))
  exact ⟨⟨rfl, htotals.1 batches⟩, _, h, rfl, rfl, rfl, htotals.2 _ _ h rfl⟩

end Exact

end BulkLoad
