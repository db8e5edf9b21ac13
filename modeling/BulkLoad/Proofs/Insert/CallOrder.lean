import BulkLoad.Proofs.Insert.Rejection
import BulkLoad.Proofs.Writer.Threads

/-!
# The order of the calls

The calls that an insert makes come in a fixed order (`Insert.Ordered`): the channel is opened, the policy is acquired,
statements are sent and settled, the channel is closed, and then the policy is. Wherever the insert stops, the calls
behind that place are the same (`Insert.ordered_insertAll`).

With two threads the calls are those of an insert with one, and no two of them overlap, however the threads interleave
(`agree_insertThreaded`, `calls_in_order`).
-/

namespace BulkLoad

open List

/-! ## Calls while the channel is in use -/

/-- Is the call a statement? -/
def TargetCall.isSend : TargetCall → Bool
  | .send _ _ => true
  | _ => false

/-- The call that sends a batch, with the answer to it. -/
def Made.sent (header : String) (x : Batch × SendResult) : Made := ⟨.send header x.1.bytes, .sent x.2⟩

namespace Insert

/-- The calls `ms` have sent batches and got answers as in `sent`, all with the same header. Other calls are commits, and
there are none in a long transaction. -/
structure InUse (o : Options) (header : String) (sent : List (Batch × SendResult)) (ms : List Made) : Prop where
  sends : ms.filter (fun m => m.call.isSend) = sent.map (Made.sent header)
  others : ∀ m ∈ ms, m.call.isSend = false → m.call = .commit
  long : o.longTransaction = true → ∀ m ∈ ms, m.call.isSend = true

section InUse

variable {o : Options} {header : String} {sent : List (Batch × SendResult)} {ms ms' : List Made}

theorem InUse.nil : InUse o header [] [] := ⟨rfl, forall_mem_nil _, fun _ => forall_mem_nil _⟩

/-- Commits are added, outside of a long transaction. -/
theorem InUse.commits (h : InUse o header sent ms) (hcommits : ∀ m ∈ ms', m.call = .commit)
    (hlong : o.longTransaction = true → ms' = []) : InUse o header sent (ms ++ ms') where
  sends := by
    have hnone : ms'.filter (fun m => m.call.isSend) = [] := by
      refine filter_eq_nil_iff.mpr fun m hm => ?_
      rw [hcommits m hm]
      exact Bool.false_ne_true
    rw [filter_append, hnone, append_nil, h.sends]
  others m hm hsend := (mem_append.mp hm).elim (fun hm => h.others m hm hsend) (hcommits m)
  long ho := by
    rw [hlong ho, append_nil]
    exact h.long ho

/-- A batch is sent. -/
theorem InUse.send (h : InUse o header sent ms) (x : Batch × SendResult) :
    InUse o header (sent ++ [x]) (ms ++ [Made.sent header x]) where
  sends := by
    rw [filter_append, h.sends, map_append]
    rfl
  others m hm hsend := by
    rcases mem_append.mp hm with hm | hm
    · exact h.others m hm hsend
    · rw [mem_singleton.mp hm] at hsend
      cases hsend
  long ho m hm := by
    rcases mem_append.mp hm with hm | hm
    · exact h.long ho m hm
    · rw [mem_singleton.mp hm]
      rfl

end InUse

/-- **The calls of an insert in their order.** Either the channel could not be opened, and then no other call was made and
no record was taken. Or it was opened, and closed once. Before the first batch is sent the mode is switched at most.
The batches are sent in their order, with the same header, and none is sent behind one that was rejected. Behind the
end of the channel the transaction is controlled. -/
inductive Ordered (o : Options) (header : String) (batches : List Batch) : InsertReport → List Made → Prop
  | unopened (e : DriverError) :
      Ordered o header batches ⟨.error (.channelAcquisition e), 0⟩ [⟨.openChannel, .failed e⟩]
  | opened {report : InsertReport} {before ms after : List Made} {sent : List (Batch × SendResult)} {closed : Answer}
      (acquiring : ∀ m ∈ before, m.call.isSwitch = true)
      (inUse : InUse o header sent ms)
      (inOrder : sent.map Prod.fst <+: batches)
      (numbered : ∀ (i : Nat) (x : Batch × SendResult), sent[i]? = some x → x.1.seq = i + 1)
      (accepted : ∀ x ∈ sent.dropLast, x.2.rejection? o.errorOnMissingRow x.1 = none)
      (closing : ∀ m ∈ after, m.call.isControl = true) :
      Ordered o header batches report (⟨.openChannel, .done⟩ :: before ++ ms ++ ⟨.closeChannel, closed⟩ :: after)

/-! ## Stages -/

section Stages

variable {τ κ : Type} [Target τ κ] {P : τ → Prop} {o : Options} {header : String} {opening : List Made} {bs : List Batch}
  {b : Batch} {w : ChannelWriter κ} {p : Policy} {t : Journaled τ}

/-- The insert is under way, and the batches `bs` have been accepted. The calls `opening` were made before. -/
structure Serving (P : τ → Prop) (o : Options) (header : String) (opening : List Made) (bs : List Batch)
    (w : ChannelWriter κ) (p : Policy) (t : Journaled τ) : Prop where
  heads : w.header = header
  checks : w.strict = o.errorOnMissingRow
  isOpen : w.closed = false
  kind : p.mode.kind = o.policyMode
  keeps : P t.target
  calls : ∃ sent ms, sent.map Prod.fst = bs ∧ t.made = opening ++ ms ∧ InUse o header sent ms ∧
    ∀ x ∈ sent, x.2.rejection? o.errorOnMissingRow x.1 = none

/-- The last one of the batches `bs` has been rejected. -/
structure Refused (o : Options) (header : String) (opening : List Made) (bs : List Batch) (w : ChannelWriter κ)
    (t : Journaled τ) : Prop where
  isOpen : w.closed = false
  calls : ∃ sent ms, sent.map Prod.fst = bs ∧ t.made = opening ++ ms ∧ InUse o header sent ms ∧
    ∀ x ∈ sent.dropLast, x.2.rejection? o.errorOnMissingRow x.1 = none

/-- Settling makes commits only, and no call at all in a long transaction. -/
theorem made_settle (hkind : p.mode.kind = o.policyMode) (progress : Progress) (t : Journaled τ) :
    ∃ ms, ((p.settle progress).out t).2.made = t.made ++ ms ∧ (∀ m ∈ ms, m.call = .commit) ∧
      (o.longTransaction = true → ms = []) := by
  cases hlong : o.longTransaction with
  | false =>
    obtain ⟨ms, hmade, hcommits⟩ := Policy.only_settle p progress t
    exact ⟨ms, hmade, hcommits, nofun⟩
  | true =>
    have hmode : p.mode = .longTransaction o.commitOnClose := by
      rw [Options.policyMode, hlong, if_pos rfl] at hkind
      cases hp : p.mode <;> rw [hp] at hkind <;> first | exact hkind | cases hkind
    refine ⟨[], ?_, forall_mem_nil _, fun _ => rfl⟩
    rw [append_nil]
    simp only [Act.out, Policy.settle_of_long hmode]

theorem Serving.settle (hP : Steady P) (h : Serving P o header opening bs w p t) (progress : Progress) :
    Serving P o header opening bs w ((p.settle progress).out t).1.2 ((p.settle progress).out t).2 := by
  obtain ⟨sent, ms, hbs, hmade, huse, haccepted⟩ := h.calls
  obtain ⟨ms', hmade', hcommits, hlong⟩ := made_settle h.kind progress t
  refine ⟨h.heads, h.checks, h.isOpen, (Policy.kind_settle p progress t).1.trans h.kind,
    hP.journaled.settle p progress h.keeps, sent, ms ++ ms', hbs, ?_, huse.commits hcommits hlong, haccepted⟩
  rw [hmade', hmade, append_assoc]

/-- The next batch is accepted, or it is rejected. -/
theorem Serving.write (hP : Steady P) (h : Serving P o header opening bs w p t) (hb : b.isEmpty = false) :
    (∃ w' t', (w.write b).out t = ((.written, w'), t') ∧ Serving P o header opening (bs ++ [b]) w' p t') ∨
      ∃ e t', (w.write b).out t = ((.failed e, w), t') ∧ Refused o header opening (bs ++ [b]) w t' := by
  obtain ⟨sent, ms, rfl, hmade, huse, haccepted⟩ := h.calls
  have hanswers := hP.answers w.channel w.header b.bytes h.keeps
  have hkeeps := hP.send w.channel w.header b.bytes h.keeps
  have hsend : (Target.send w.channel w.header b.bytes).out t = _ := Journaled.out_record _ _ _ t
  rw [ChannelWriter.out_write_judge hb, hsend]
  generalize (Target.send w.channel w.header b.bytes).out t.target = answered at hanswers hkeeps
  obtain ⟨a, u⟩ := answered
  have huse' := huse.send (b, a)
  have hmade' : t.made ++ [⟨.send w.header b.bytes, .sent a⟩] = opening ++ (ms ++ [Made.sent header (b, a)]) := by
    rw [hmade, append_assoc, h.heads]
    rfl
  have hbs : (sent ++ [(b, a)]).map Prod.fst = sent.map Prod.fst ++ [b] := map_append
  rw [ChannelWriter.judge_of_answered hanswers, h.checks]
  cases hrejects : a.rejection? o.errorOnMissingRow b with
  | none =>
    refine Or.inl ⟨_, _, rfl, h.heads, h.checks, h.isOpen, h.kind, hkeeps, _, _, hbs, hmade', huse', fun x hx => ?_⟩
    rcases mem_append.mp hx with hx | hx
    · exact haccepted x hx
    · rw [mem_singleton.mp hx]
      exact hrejects
  | some source =>
    refine Or.inr ⟨_, _, rfl, h.isOpen, _, _, hbs, hmade', huse', ?_⟩
    rw [dropLast_concat]
    exact haccepted

theorem follows_serving (hP : Steady P) :
    Follows (Serving (κ := κ) P o header opening) (fun bs _ w _ t => Refused o header opening bs w t) where
  settle {_ w _ _} h := h.settle hP w.progress
  write h hb := h.write hP hb

omit [Target τ κ] in
/-- Wherever the insert stops, what it has sent was accepted, but for the last batch at most. -/
theorem calls_of_halts {all : List Batch} {d : (Except BulkError Unit × Job (ChannelWriter κ)) × Journaled τ}
    (h : Halts (Serving P o header opening) (fun bs _ w _ t => Refused o header opening bs w t) all d) :
    d.1.2.writer.closed = false ∧ ∃ sent ms, sent.map Prod.fst <+: all ∧ d.2.made = opening ++ ms ∧
      InUse o header sent ms ∧ ∀ x ∈ sent.dropLast, x.2.rejection? o.errorOnMissingRow x.1 = none := by
  cases h with
  | accepted hbs _ hserving =>
    obtain ⟨sent, ms, rfl, hmade, huse, haccepted⟩ := hserving.calls
    exact ⟨hserving.isOpen, sent, ms, hbs, hmade, huse, fun x hx => haccepted x (dropLast_subset sent hx)⟩
  | rejected hbs hrefused =>
    obtain ⟨sent, ms, rfl, hmade, huse, haccepted⟩ := hrefused.calls
    exact ⟨hrefused.isOpen, sent, ms, hbs, hmade, huse, haccepted⟩

/-- A writer that is open closes its channel with one call. -/
theorem made_close (hopen : w.closed = false) (t : Journaled τ) :
    ∃ closed, ((w.close).out t).2.made = t.made ++ [⟨.closeChannel, closed⟩] := by
  unfold ChannelWriter.close
  rw [hopen, if_neg Bool.false_ne_true]
  exact ⟨_, rfl⟩

/-- An insert is ended with the end of its channel, and then with transaction control. -/
theorem made_finish {d : (Except BulkError Unit × Job (ChannelWriter κ)) × Journaled τ}
    (hopen : d.1.2.writer.closed = false) : ∃ closed after,
      (finish (direct (Journaled τ)) d).2.made = d.2.made ++ ⟨.closeChannel, closed⟩ :: after ∧
        ∀ m ∈ after, m.call.isControl = true := by
  obtain ⟨⟨r, ⟨w, p, n⟩⟩, t⟩ := d
  obtain ⟨closed, hclosed⟩ := made_close hopen t
  obtain ⟨after, hafter, hcontrol⟩ := Policy.only_close (p.observe w.progress)
    (outcome (r.bind fun _ => ((w.close).out t).1.1)) ((w.close).out t).2
  refine ⟨closed, after, ?_, hcontrol⟩
  rw [finish_direct]
  refine hafter.trans ?_
  rw [hclosed, append_assoc]
  rfl

end Stages

/-! ## Inserts -/

section All

variable {ρ τ κ : Type} [Target τ κ] {P : τ → Prop}

/-- The calls behind the acquisition of a policy. -/
theorem made_load (hP : Steady P) (s : Schema ρ) (o : Options) (f : Format) (records : List ρ) (channel : κ)
    {p : Policy} {t : Journaled τ} (ht : P t.target) (hmode : p.mode = o.policyMode) :
    ∃ sent ms closed after, (load s o f records channel p t).2.made =
        t.made ++ ms ++ ⟨.closeChannel, closed⟩ :: after ∧
      InUse o (statement f s) sent ms ∧ sent.map Prod.fst <+: (cut s o f records).batches ∧
      (∀ x ∈ sent.dropLast, x.2.rejection? o.errorOnMissingRow x.1 = none) ∧ ∀ m ∈ after, m.call.isControl = true := by
  -- A pipelined insert makes the same calls.
  have hstate : (load s o f records channel p t).2 =
      ((run s.table (direct (Journaled τ)) (writer s o f channel) p (cut s o f records)).out t).2 := by
    unfold load
    split
    · exact (sameEffect_run hP.journaled s.table _ p _ ht).1
    · rfl
  have hkind : p.mode.kind = o.policyMode := by
    rw [hmode]
    exact o.kind_policyMode
  have hstart : Serving P o (statement f s) t.made [] (writer s o f channel) p t :=
    ⟨rfl, rfl, rfl, hkind, ht, [], [], rfl, (append_nil _).symm, .nil, forall_mem_nil _⟩
  have hdrive := (follows_serving hP).drive (cut s o f records) (fun x hx => isEmpty_filled s _ _ records hx) hstart 0
  obtain ⟨hopen, sent, ms, hbatches, hmade, huse, haccepted⟩ := calls_of_halts hdrive
  obtain ⟨closed, after, hfinish, hcontrol⟩ := made_finish hopen
  refine ⟨sent, ms, closed, after, ?_, huse, hbatches, haccepted, hcontrol⟩
  rw [hstate, out_run, hfinish, hmade]

/-- **An insert makes its calls in order.** -/
theorem ordered_insertAll (hP : Steady P) (s : Schema ρ) (o : Options) (records : List ρ) {t : τ} (ht : P t) :
    Ordered o (statement (Target.format t) s) (cut s o (Target.format t) records).batches
      ((insertAll s o records).out (⟨t, []⟩ : Journaled τ)).1
      ((insertAll s o records).out (⟨t, []⟩ : Journaled τ)).2.made := by
  have hnumbered {sent : List (Batch × SendResult)}
      (hsent : sent.map Prod.fst <+: (cut s o (Target.format t) records).batches) (i : Nat) (x : Batch × SendResult)
      (hx : sent[i]? = some x) : x.1.seq = i + 1 := by
    obtain ⟨rest, hrest⟩ := hsent
    have hi : i < (sent.map Prod.fst).length := by
      rw [length_map]
      exact (List.getElem?_eq_some_iff.mp hx).1
    have hbatch : (cut s o (Target.format t) records).batches[i]? = some x.1 := by
      rw [← hrest, getElem?_append_left hi, getElem?_map, hx]
      rfl
    exact seq_batches s _ _ records hbatch
  have hopens := hP.openChannel ht
  have hopen : (Target.openChannel : Act (Journaled τ) (Except DriverError κ)).out ⟨t, []⟩ =
      (((Target.openChannel : Act τ (Except DriverError κ)).out t).1,
        ⟨((Target.openChannel : Act τ (Except DriverError κ)).out t).2,
          [⟨.openChannel, .of ((Target.openChannel : Act τ (Except DriverError κ)).out t).1⟩]⟩) := rfl
  rw [out_insertAll, hopen]
  generalize (Target.openChannel : Act τ (Except DriverError κ)).out t = opened at hopens
  obtain ⟨e | channel, u⟩ := opened
  · exact .unopened e
  have hformat : Target.format (⟨t, []⟩ : Journaled τ) = Target.format t := rfl
  have hdone : Answer.of (.ok channel : Except DriverError κ) = .done := rfl
  simp only [hformat, hdone]
  have hkeeps := hP.journaled.acquire o (t := ⟨u, [⟨.openChannel, .done⟩]⟩) hopens
  obtain ⟨before, hbefore, hswitches⟩ := Policy.only_acquire o (⟨u, [⟨.openChannel, .done⟩]⟩ : Journaled τ)
  rcases hacquire : (Policy.acquire o).out (⟨u, [⟨.openChannel, .done⟩]⟩ : Journaled τ) with ⟨e | p, v⟩
  · rw [hacquire] at hbefore
    simp only
    obtain ⟨closed, hclosed⟩ := made_close (w := writer s o (Target.format t) channel) rfl v
    have hmade : (((writer s o (Target.format t) channel).close).out v).2.made =
        ⟨.openChannel, .done⟩ :: before ++ [] ++ [⟨.closeChannel, closed⟩] := by
      rw [hclosed, hbefore, append_nil]
      rfl
    rw [hmade]
    exact .opened hswitches .nil nil_prefix nofun (forall_mem_nil _) (forall_mem_nil _)
  · rw [hacquire] at hbefore hkeeps
    simp only
    obtain ⟨sent, ms, closed, after, hload, huse, hbatches, haccepted, hcontrol⟩ :=
      made_load hP s o (Target.format t) records channel hkeeps (Policy.mode_of_acquire hacquire).2
    have hmade : (load s o (Target.format t) records channel p v).2.made =
        ⟨.openChannel, .done⟩ :: before ++ ms ++ ⟨.closeChannel, closed⟩ :: after := by
      rw [hload, hbefore]
      rfl
    rw [hmade]
    exact .opened hswitches huse hbatches (hnumbered hbatches) haccepted hcontrol

end All

end Insert

/-! ## Two threads -/

section Threads

variable {ρ τ κ : Type} [Target τ κ] {P : τ → Prop}

open Threads

/-- **An insert with two threads agrees with one whose writer has the answers at once.** -/
theorem agree_insertThreaded (hP : Steady P) (s : Schema ρ) (o : Options) (records : List ρ) :
    Act.Agree (Rests (κ := κ) P none) (insertThreaded s o records) (insertAll s o records) := by
  have h := compatible_rests hP.controlled (none : Option (ChannelWriter κ))
  have hcontrol := sameControl_rests hP.controlled (none : Option (ChannelWriter κ))
  have hformat : Act.Agree (Rests (κ := κ) P none) (Act.ask Target.format) (Act.ask Target.format) :=
    fun _ _ hrests => ⟨congrArg Target.format hrests.shows.target, hrests⟩
  unfold insertThreaded insertAll insertWith
  refine h.bind (h.note _) fun _ => h.bind hformat fun format => h.bind (h.note _) fun _ => h.bind (h.note _) fun _ => ?_
  refine h.bind (agree_call hP.openChannel) fun opened => ?_
  rcases opened with e | channel
  · exact h.pure _
  refine h.bind (h.acquire hcontrol.setAutocommit o) fun acquired => ?_
  rcases acquired with e | policy
  · refine h.bind (agree_close hP _) fun closed => ?_
    rcases closed with ⟨ce | _, _⟩
    · exact h.bind (h.note _) fun _ => h.pure _
    · exact h.pure _
  · simp only
    split
    · intro s' t hrests
      have hnear := Remote.near_spawn hrests { channel := channel, header := statement format s, strict := o.errorOnMissingRow }
      rw [Act.out_bind]
      exact Insert.agree_run (Remote.inStep_remote hP) s.table policy _ hnear
    · intro s' t hrests
      exact Insert.agree_run (inStep_direct hP) _ _ _ ⟨rfl, hrests⟩

end Threads

end BulkLoad
