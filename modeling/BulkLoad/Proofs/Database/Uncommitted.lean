import BulkLoad.Proofs.Database.Alike
import BulkLoad.Proofs.Database.Declared

/-!
# Uncommitted work

What a connection has staged is no concern of anybody else until it is committed. If all statements of a transaction that
is given up are left out of a history, then the others and the readers of the database are answered as before, and once
the transaction has ended its own connection is, too (`Database.uncommitted_invisible`).

Two runs are compared. While the transaction is open they look alike to all connections but its own, which has staged
nothing in the second run (`Database.Hides`); a statement that it sends changes the first run only
(`Database.Hides.send`), and any other step is taken in both (`Database.Hides.step`). When the transaction is given up
they look alike to all connections (`Database.Hides.finish`).
-/

namespace BulkLoad

open List

namespace Database

/-! ## Steps -/

/-- A question to the database or to one of its connections. -/
inductive Query
  | table (table : String)
  | rows (table : String)
  | count (table : String)
  | visibleCount (connection : Nat) (table : String)
  | autocommit (connection : Nat)
  | inTransaction (connection : Nat)
  | format (connection : Nat)

/-- A step of a history. -/
inductive Step
  | call (op : Op)
  | query (q : Query)

/-- What is replied to a step. -/
inductive Reply
  | answer (a : Answer)
  | table (t : Option TableDef)
  | rows (rows : Option (List Row))
  | count (n : Option Nat)
  | flag (b : Bool)
  | format (f : Format)

/-- The reply to a question. -/
def Query.reply (d : Database) : Query → Reply
  | .table x => .table ((d.catalog.find? x).map Table.definition)
  | .rows x => .rows (d.rows? x)
  | .count x => .count (d.count? x)
  | .visibleCount n x => .count (d.visibleCount? n x)
  | .autocommit n => .flag (d.session n).autocommit
  | .inTransaction n => .flag (d.session n).inTransaction
  | .format n => .format (d.connection n).format

/-- Is it another than connection `n` that is asked? -/
def Query.elsewhere (n : Nat) : Query → Bool
  | .table _ => true
  | .rows _ => true
  | .count _ => true
  | .visibleCount m _ => m != n
  | .autocommit m => m != n
  | .inTransaction m => m != n
  | .format m => m != n

namespace Step

/-- The database after a step. -/
def apply (d : Database) : Step → Database
  | .call op => op.apply d
  | .query _ => d

/-- The reply to a step. -/
def reply (d : Database) : Step → Reply
  | .call op => .answer (op.answer d)
  | .query q => q.reply d

/-- Is the step one of another than connection `n`? -/
def elsewhere (n : Nat) (d : Database) : Step → Bool
  | .call op => op.elsewhere n d
  | .query q => q.elsewhere n

/-- Does connection `n` send a statement? -/
def sends (n : Nat) (d : Database) : Step → Bool
  | .call (.send channel _ _) => d.owner? channel == some n
  | _ => false

/-- Does connection `n` end its transaction, or try to? -/
def ends (n : Nat) : Step → Bool
  | .call (.commit m) => m == n
  | .call (.rollback m) => m == n
  | .call (.setAutocommit m on) => m == n && on
  | _ => false

end Step

/-- The database after steps. -/
def through (d : Database) (steps : List Step) : Database := steps.foldl Step.apply d

/-- The replies to steps. -/
def replies (d : Database) : List Step → List Reply
  | [] => []
  | step :: steps => step.reply d :: replies (step.apply d) steps

/-- The replies to the steps of others than connection `n`. -/
def repliesElsewhere (n : Nat) (d : Database) : List Step → List Reply
  | [] => []
  | step :: steps =>
    if step.elsewhere n d then step.reply d :: repliesElsewhere n (step.apply d) steps
    else repliesElsewhere n (step.apply d) steps

/-- The steps without the statements that connection `n` sends. -/
def withoutSends (n : Nat) (d : Database) : List Step → List Step
  | [] => []
  | step :: steps =>
    if step.sends n d then withoutSends n (step.apply d) steps
    else step :: withoutSends n (step.apply d) steps

/-- Connection `n` gives up its transaction: it is rolled back, or the commit fails. -/
inductive GivesUp (n : Nat) (d : Database) : Step → Prop
  | rollback : GivesUp n d (.call (.rollback n))
  | commit {e : DriverError} : (Database.commit n d).value = .error e → GivesUp n d (.call (.commit n))
  | setAutocommit {e : DriverError} : (Database.setAutocommit n true d).value = .error e →
      GivesUp n d (.call (.setAutocommit n true))

variable {d d' : Database} {n : Nat} {step : Step} {steps : List Step}

theorem through_append (steps steps' : List Step) : d.through (steps ++ steps') = (d.through steps).through steps' :=
  foldl_append

theorem repliesElsewhere_append (n : Nat) (steps' : List Step) : ∀ (steps : List Step) (d : Database),
    repliesElsewhere n d (steps ++ steps') =
      repliesElsewhere n d steps ++ repliesElsewhere n (d.through steps) steps'
  | [], _ => rfl
  | step :: steps, d => by
    have ih := repliesElsewhere_append n steps' steps (step.apply d)
    rw [cons_append, repliesElsewhere, repliesElsewhere, ih]
    split <;> rfl

theorem Reachable.apply_step (h : d.Reachable) : ∀ step : Step, (step.apply d).Reachable
  | .call op => h.step op
  | .query _ => h

theorem Reachable.through : ∀ {steps : List Step} {d : Database}, d.Reachable → (d.through steps).Reachable
  | [], _, h => h
  | first :: rest, d, h => show ((first.apply d).through rest).Reachable from (h.apply_step first).through

/-- Whose step it is depends on the channels only. -/
theorem elsewhere_congr (h : d'.channels = d.channels) (step : Step) : step.elsewhere n d' = step.elsewhere n d := by
  have howner (channel : Nat) : d'.owner? channel = d.owner? channel := by rw [owner?, owner?, h]
  cases step with
  | query q => rfl
  | call op => cases op <;> simp only [Step.elsewhere, Op.elsewhere, howner]

theorem exists_of_sends (h : step.sends n d = true) : ∃ channel header payload,
    step = .call (.send channel header payload) ∧ d.owner? channel = some n := by
  unfold Step.sends at h
  split at h
  · next channel header payload => exact ⟨channel, header, payload, rfl, beq_iff_eq.mp h⟩
  · cases h

theorem elsewhere_of_sends (h : step.sends n d = true) : step.elsewhere n d = false := by
  obtain ⟨channel, header, payload, rfl, howner⟩ := exists_of_sends h
  simp only [Step.elsewhere, Op.elsewhere, howner, bne_self_eq_false]

/-! ## Databases that look alike -/

variable {seen : Nat → Prop}

/-- Connections in `seen` get the same replies. -/
theorem Alike.reply (h : Alike seen d d') {q : Query} (hseen : ∀ m, q.elsewhere m = false → seen m) :
    q.reply d' = q.reply d := by
  have hrows (x : String) : d'.rows? x = d.rows? x := by rw [rows?, rows?, h.catalog]
  have hown {m : Nat} (hm : (m != m) = false → seen m) : (d.session m).Alike (d'.session m) :=
    h.session m (hm (bne_self_eq_false m))
  cases q with
  | table x => simp only [Query.reply, h.catalog]
  | rows x => simp only [Query.reply, hrows]
  | count x => simp only [Query.reply, count?, hrows]
  | visibleCount m x => simp only [Query.reply, visibleCount?, count?, hrows, (hown (hseen m)).staged]
  | autocommit m => simp only [Query.reply, (hown (hseen m)).mode]
  | inTransaction m =>
    simp only [Query.reply, (hown (hseen m)).inTransaction (h.holds m).names (h.holds' m).names]
  | format m => simp only [Query.reply, h.format]

/-- A step of a connection in `seen`. -/
theorem Alike.take (h : Alike seen d d') {step : Step} (hseen : ∀ m, step.elsewhere m d = false → seen m) :
    step.reply d' = step.reply d ∧ Alike seen (step.apply d) (step.apply d') := by
  cases step with
  | call op => exact (h.step hseen).imp (congrArg Reply.answer) id
  | query q => exact ⟨h.reply hseen, h⟩

/-- **Databases that look alike to all connections** give the same replies to all steps. -/
theorem Alike.run (n : Nat) : ∀ {d d' : Database} (steps : List Step), Alike (fun _ => True) d d' →
    replies d' steps = replies d steps ∧ repliesElsewhere n d' steps = repliesElsewhere n d steps ∧
      Alike (fun _ => True) (d.through steps) (d'.through steps)
  | _, _, [], h => ⟨rfl, rfl, h⟩
  | d, d', step :: steps, h => by
    obtain ⟨hreply, halike⟩ : step.reply d' = step.reply d ∧ Alike (fun _ => True) (step.apply d) (step.apply d') :=
      h.take fun _ _ => trivial
    obtain ⟨hreplies, helsewhere, hthrough⟩ := Alike.run n steps halike
    refine ⟨?_, ?_, hthrough⟩
    · rw [replies, replies, hreply, hreplies]
    · rw [repliesElsewhere, repliesElsewhere, elsewhere_congr h.channels, hreply, helsewhere]

/-! ## An open transaction -/

/-- Connection `n` is in a transaction, and what it has staged is missing in `d'`; to others the databases look alike. -/
structure Hides (n : Nat) (d d' : Database) : Prop where
  alike : Alike (fun m => m ≠ n) d d'
  off : (d.session n).autocommit = false
  off' : (d'.session n).autocommit = false
  clean : (d'.session n).Clean

/-- A connection that has switched autocommit off has been opened. -/
theorem lt_length_of_off (h : (d.session n).autocommit = false) : n < d.connections.length := by
  apply Decidable.byContradiction
  intro hle
  rw [session_of_le (Nat.le_of_not_lt hle)] at h
  cases h

theorem hides_begin (hd : d.Reachable) (hmode : (d.session n).autocommit = false)
    (hbegin : (d.session n).inTransaction = false) : Hides n d d :=
  ⟨Alike.refl hd, hmode, hmode, (hd.kept n).clean hbegin⟩

/-- A step of another connection. -/
theorem Hides.elsewhere (h : Hides n d d') (hstep : step.elsewhere n d = true) :
    step.reply d' = step.reply d ∧ Hides n (step.apply d) (step.apply d') := by
  have hothers : ∀ m, step.elsewhere m d = false → m ≠ n := by
    rintro m hm rfl
    rw [hstep] at hm
    cases hm
  obtain ⟨hreply, halike⟩ := h.alike.take hothers
  have hstep' : step.elsewhere n d' = true := by rw [elsewhere_congr h.alike.channels, hstep]
  -- The session of connection `n` is spared.
  have hspared {d : Database} (hoff : (d.session n).autocommit = false) (hstep : step.elsewhere n d = true) :
      (step.apply d).session n = d.session n := by
    cases step with
    | call op => exact (spares_apply hstep).session (lt_length_of_off hoff)
    | query q => rfl
  refine ⟨hreply, halike, ?_, ?_, ?_⟩
  · rw [hspared h.off hstep, h.off]
  · rw [hspared h.off' hstep', h.off']
  · rw [hspared h.off' hstep']
    exact h.clean

/-- To the others another session of connection `n` makes no difference. -/
theorem Alike.put_left (h : Alike (fun m => m ≠ n) d d') {S : Session}
    (hchange : Change n d (d.put n d.catalog S)) : Alike (fun m => m ≠ n) (d.put n d.catalog S) d' where
  catalog := h.catalog
  channels := h.channels
  length := by rw [length_connections_put, h.length]
  format m := by rw [format_put, h.format]
  allowsBulk m := by
    rw [connection_put]
    split <;> exact h.allowsBulk m
  session m hm := by
    rw [session_put, if_neg fun hn => hm hn.1.symm]
    exact h.session m hm
  holds := h.holds.change Catalog.invariant_holds hchange
  holds' := h.holds'

/-- **A statement that connection `n` sends** can be left out. -/
theorem Hides.send (h : Hides n d d') (hd : d.Reachable) (hsends : step.sends n d = true) :
    Hides n (step.apply d) d' := by
  obtain ⟨channel, header, payload, rfl, howner⟩ := exists_of_sends hsends
  show Hides n (Act.out (Database.send channel header payload) d).2 d'
  rcases send_cases hd.owned channel header payload with ⟨e, hout⟩ | ⟨m, dest, a, S, hch, hknown, -, -, rfl, hsent⟩
  · rw [hout]
    exact h
  -- The channel belongs to connection `n`, and this is not in autocommit.
  have hm : m = n := by
    rw [owner?, hch] at howner
    exact Option.some.inj howner
  subst hm
  rcases hsent with ⟨_, hout⟩ | ⟨hon, _⟩
  · rw [hout]
    refine ⟨h.alike.put_left (.load dest payload), ?_, h.off', h.clean⟩
    rw [session_put, if_pos ⟨rfl, hknown⟩, Catalog.autocommit_load, h.off]
  · rw [h.off] at hon
    cases hon

/-- Switching autocommit off once more changes nothing. -/
theorem apply_setAutocommit_off (h : (d.session n).autocommit = false) :
    (Op.setAutocommit n false).apply d = d := by
  show (Act.out (Database.setAutocommit n false) d).2 = d
  rcases setAutocommit_cases d n false with ⟨_, hout⟩ | ⟨⟨hon, _⟩, _⟩
  · have hsame : { d.session n with autocommit := false } = d.session n := by rw [← h]
    rw [hout, hsame]
    exact put_self d n
  · cases hon

/-- **Whatever else connection `n` does in its transaction** it does in both runs. -/
theorem Hides.own (h : Hides n d d') (hstep : step.elsewhere n d = false) (hsends : step.sends n d = false)
    (hends : step.ends n = false) : Hides n (step.apply d) (step.apply d') := by
  cases step with
  | query q => exact h
  | call op =>
    cases op with
    | createTable t => cases hstep
    | connect format allowsBulk => cases hstep
    | openChannel m =>
      have hsession (d : Database) : (Act.out (openChannel m) d).2.session n = d.session n := by
        rw [out_openChannel]
        split <;> rfl
      refine ⟨(matches_openChannel m d d' h.alike).2, ?_, ?_, ?_⟩
      · exact (congrArg Session.autocommit (hsession d)).trans h.off
      · exact (congrArg Session.autocommit (hsession d')).trans h.off'
      · show ((Act.out (openChannel m) d').2.session n).Clean
        rw [hsession]
        exact h.clean
    | closeChannel channel => exact ⟨(matches_closeChannel channel d d' h.alike).2, h.off, h.off', h.clean⟩
    | setAutocommit m on =>
      have hm : m = n := by simpa [Step.elsewhere, Op.elsewhere] using hstep
      subst hm
      have hon : on = false := by simpa [Step.ends] using hends
      subst hon
      show Hides m ((Op.setAutocommit m false).apply d) ((Op.setAutocommit m false).apply d')
      rw [apply_setAutocommit_off h.off, apply_setAutocommit_off h.off']
      exact h
    | commit m =>
      simp only [Step.elsewhere, Op.elsewhere, bne_eq_false_iff_eq] at hstep
      simp [Step.ends, hstep] at hends
    | rollback m =>
      simp only [Step.elsewhere, Op.elsewhere, bne_eq_false_iff_eq] at hstep
      simp [Step.ends, hstep] at hends
    | send channel header payload =>
      simp only [Step.elsewhere, Op.elsewhere, bne_eq_false_iff_eq] at hstep
      simp [Step.sends, hstep] at hsends

/-- **Without what connection `n` sends in its transaction** the others get the same replies. -/
theorem Hides.run : ∀ {steps : List Step} {d d' : Database}, Hides n d d' → d.Reachable →
    (∀ step ∈ steps, step.ends n = false) → Hides n (d.through steps) (d'.through (withoutSends n d steps)) ∧
      repliesElsewhere n d' (withoutSends n d steps) = repliesElsewhere n d steps
  | [], _, _, h, _, _ => ⟨h, rfl⟩
  | step :: steps, d, d', h, hd, hends => by
    obtain ⟨hfirst, hrest⟩ := forall_mem_cons.mp hends
    rw [withoutSends, repliesElsewhere]
    cases hsends : step.sends n d with
    | true =>
      rw [elsewhere_of_sends hsends]
      exact Hides.run (h.send hd hsends) (hd.apply_step step) hrest
    | false =>
      simp only [Bool.false_eq_true, if_false]
      rw [repliesElsewhere, elsewhere_congr h.alike.channels]
      cases hstep : step.elsewhere n d with
      | true =>
        obtain ⟨hreply, hhides⟩ := h.elsewhere hstep
        obtain ⟨hthrough, hreplies⟩ := Hides.run hhides (hd.apply_step step) hrest
        refine ⟨hthrough, ?_⟩
        simp only [if_true]
        rw [hreply, hreplies]
      | false => exact Hides.run (h.own hstep hsends hfirst) (hd.apply_step step) hrest

/-- Without what it has staged, connection `n` finds the databases alike. -/
theorem Hides.discard (h : Hides n d d') :
    Alike (fun _ => True) (d.put n d.catalog (d.session n).discard) d' := by
  have halike : Alike (fun m => m ≠ n) (d.put n d.catalog (d.session n).discard) d' := h.alike.put_left .rollback
  refine ⟨halike.catalog, halike.channels, halike.length, halike.format, halike.allowsBulk, fun m _ => ?_,
    halike.holds, halike.holds'⟩
  by_cases hm : m = n
  · subst hm
    rw [session_put, if_pos ⟨rfl, lt_length_of_off h.off⟩]
    refine ⟨h.off'.trans h.off.symm, fun x => ?_⟩
    rw [h.clean.stagedFor]
    rfl
  · exact halike.session m hm

/-- **When the transaction is given up** the databases look alike to all connections. -/
theorem Hides.finish (h : Hides n d d') (hend : GivesUp n d step) : Alike (fun _ => True) (step.apply d) d' := by
  cases hend with
  | rollback => exact h.discard
  | commit he =>
    show Alike _ (Act.out (Database.commit n) d).2 d'
    change (Act.out (Database.commit n) d).1 = _ at he
    rcases commit_cases d n with ⟨_, hout⟩ | ⟨e, hout⟩
    · rw [hout] at he
      cases he
    · rw [hout]
      exact h.discard
  | setAutocommit he =>
    show Alike _ (Act.out (Database.setAutocommit n true) d).2 d'
    change (Act.out (Database.setAutocommit n true) d).1 = _ at he
    rcases setAutocommit_cases d n true with ⟨_, hout⟩ | ⟨_, ⟨_, hout⟩ | ⟨e, hout⟩⟩
    · rw [hout] at he
      cases he
    · rw [hout] at he
      cases he
    · rw [hout]
      exact h.discard

theorem GivesUp.elsewhere (h : GivesUp n d step) : step.elsewhere n d = false := by
  cases h <;> exact bne_self_eq_false n

/-! ## Uncommitted work is invisible -/

/-- **Uncommitted work is invisible to others.** Connection `n` is in no transaction and begins one, with autocommit
switched off; then any steps are taken, and none of them ends it. Up to there, the others get the same replies and the
tables hold the same rows if all that the connection sends is left out. And if it gives up its transaction then, by a
rollback or by a commit that fails, this step can be left out, too: whatever follows, the others get the same replies,
from then on all connections get the same replies, and the tables hold the same rows in the end. -/
theorem uncommitted_invisible (n : Nat) (before body : List Step)
    (hmode : ((through {} before).session n).autocommit = false)
    (hbegin : ((through {} before).session n).inTransaction = false) (hbody : ∀ step ∈ body, step.ends n = false) :
    let kept := withoutSends n (through {} before) body
    (repliesElsewhere n {} (before ++ kept) = repliesElsewhere n {} (before ++ body) ∧
      ∀ table, (through {} (before ++ kept)).rows? table = (through {} (before ++ body)).rows? table) ∧
    ∀ ending, GivesUp n (through {} (before ++ body)) ending → ∀ later,
      repliesElsewhere n {} (before ++ kept ++ later) = repliesElsewhere n {} (before ++ body ++ ending :: later) ∧
      replies (through {} (before ++ kept)) later = replies (through {} (before ++ body ++ [ending])) later ∧
      ∀ table, (through {} (before ++ kept ++ later)).rows? table =
        (through {} (before ++ body ++ ending :: later)).rows? table := by
  intro kept
  have hd : (through {} before).Reachable := Reachable.initial.through
  have hrows {seen : Nat → Prop} {d d' : Database} (h : Alike seen d d') (table : String) :
      d'.rows? table = d.rows? table := by
    rw [rows?, rows?, h.catalog]
  obtain ⟨hhides, hreplies⟩ := (hides_begin hd hmode hbegin).run hd hbody
  have hopen : repliesElsewhere n {} (before ++ kept) = repliesElsewhere n {} (before ++ body) := by
    rw [repliesElsewhere_append, repliesElsewhere_append, hreplies]
  rw [← through_append, ← through_append] at hhides
  refine ⟨⟨hopen, hrows hhides.alike⟩, fun ending hend later => ?_⟩
  obtain ⟨hall, helsewhere, hthrough⟩ := (hhides.finish hend).run n later
  have hlater : through {} (before ++ body ++ ending :: later) =
      (ending.apply (through {} (before ++ body))).through later := through_append ..
  refine ⟨?_, ?_, fun table => ?_⟩
  · rw [repliesElsewhere_append n later, repliesElsewhere_append n (ending :: later), repliesElsewhere,
      hend.elsewhere, hopen, helsewhere]
    rfl
  · rw [through_append (before ++ body)]
    exact hall
  · rw [hlater, through_append]
    exact hrows hthrough table

/-- Two connections with a channel each, of which the first one has switched autocommit off. -/
def opening : List Step :=
  [.call (.createTable teamTable), .call (.connect .copy true), .call (.connect .copy true), .call (.openChannel 0),
    .call (.openChannel 1), .call (.setAutocommit 0 false)]

/-- The first connection stages two teams, one of which is then added by the second connection. -/
def contest : List Step :=
  [.call (sendTeams 0 .copy "1\n2\n"), .query (.visibleCount 0 "team"), .call (sendTeams 1 .copy "2\n"),
    .query (.rows "team")]

/-- The first connection cannot commit its teams any more, and so it might never have sent them. -/
theorem uncommitted_invisible_contest : ((through {} opening).session 0).autocommit = false ∧
    ((through {} opening).session 0).inTransaction = false ∧ (∀ step ∈ contest, step.ends 0 = false) ∧
    GivesUp 0 (through {} (opening ++ contest)) (.call (.commit 0)) ∧
    let kept := withoutSends 0 (through {} opening) contest
    kept.length = 3 ∧ (through {} (opening ++ kept)).rows? "team" = some [[.int 2]] ∧
      repliesElsewhere 0 {} (opening ++ kept) = repliesElsewhere 0 {} (opening ++ contest) ∧
      ∀ later, replies (through {} (opening ++ kept)) later =
        replies (through {} (opening ++ contest ++ [.call (.commit 0)])) later := by
  obtain ⟨hmode, hbegin, hall, hfails, hlength, hrows⟩ : ((through {} opening).session 0).autocommit = false ∧
      ((through {} opening).session 0).inTransaction = false ∧ contest.all (fun step => !step.ends 0) = true ∧
      (commit 0 (through {} (opening ++ contest))).value.isOk = false ∧
      (withoutSends 0 (through {} opening) contest).length = 3 ∧
      (through {} (opening ++ withoutSends 0 (through {} opening) contest)).rows? "team" = some [[.int 2]] := by
    decide +kernel
  have hbody : ∀ step ∈ contest, step.ends 0 = false := fun step hstep => by
    simpa using all_eq_true.mp hall step hstep
  have hend : GivesUp 0 (through {} (opening ++ contest)) (.call (.commit 0)) := by
    cases hvalue : (commit 0 (through {} (opening ++ contest))).value with
    | error e => exact .commit hvalue
    | ok _ =>
      rw [hvalue] at hfails
      cases hfails
  obtain ⟨⟨hreplies, _⟩, hlater⟩ := uncommitted_invisible 0 opening contest hmode hbegin hbody
  exact ⟨hmode, hbegin, hbody, hend, hlength, hrows, hreplies, fun later => (hlater _ hend later).2.1⟩

end Database

end BulkLoad
