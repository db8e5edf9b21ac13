import BulkLoad.Proofs.Insert.Durable
import BulkLoad.Proofs.Insert.Ledger

/-!
# What a whole insert adds

When an insert has opened its channel and acquired its policy, a ledger tells to which rows it is going to add others
(`Insert.ledger`). An insert on a connection succeeds exactly when it starts and the rows of its records can be added and
left behind (`insertAll_added`), and these rows and where they are left are the same for every threshold, pipelined or
not (`Ledger.Added`, `insertAll_ok`, `insertAll_succeeds`).
-/

namespace BulkLoad

open List

variable {ρ : Type} {d : Database} {n : Nat} {s : Schema ρ} {o : Options}

/-! ## The start of an insert -/

/-- What stays the same in an insert on a connection. -/
def Insert.ledger (s : Schema ρ) (o : Options) (d : Database) (n : Nat) : Ledger ρ where
  schema := s
  connection := n
  channel := d.channels.length
  format := (d.connection n).format
  strict := o.errorOnMissingRow
  long? := if o.longTransaction then some o.commitOnClose else none
  previous := (d.session n).autocommit
  catalog := (Client.acquired o ⟨d, n⟩).database.catalog
  session := (Client.acquired o ⟨d, n⟩).database.session n

/-- A ledger starts where the policy has been acquired. -/
theorem Insert.ledger_of_acquired (s : Schema ρ) {channel₀ channel : Nat} {closed : Bool} {f : Format} {C : Catalog}
    {S : Session} {c c' : Client} {p : Policy}
    (hopen : (Target.openChannel : Act Client _).out ⟨d, n⟩ = (.ok channel₀, c))
    (hacquire : (Policy.acquire o).out c = (.ok p, c')) (hat : c'.At n channel closed f C S) :
    (Insert.ledger s o d n).catalog = C ∧ (Insert.ledger s o d n).session = S := by
  have hacquired : Client.acquired o ⟨d, n⟩ = c' := by
    unfold Client.acquired
    rw [hopen, hacquire]
  unfold Insert.ledger
  rw [hacquired]
  exact ⟨hat.catalog, hat.session⟩

/-- A long transaction only switches autocommit off. -/
theorem Client.At.acquire_long {channel : Nat} {closed : Bool} {f : Format} {C : Catalog} {S : Session} {c : Client}
    (h : c.At n channel closed f C S) (hlong : o.longTransaction = true) :
    ∃ c', (Policy.acquire o).out c =
        (.ok { mode := .longTransaction o.commitOnClose, previous := S.autocommit }, c') ∧
      c'.At n channel closed f C { S with autocommit := false } := by
  obtain ⟨c', hout, hat⟩ := h.switchTo_idle false rfl
  have hprevious : Target.autocommit c = S.autocommit := by
    rw [← h.session, ← h.number]
    rfl
  refine ⟨c', ?_, hat⟩
  rw [Policy.out_acquire_long hlong, hout, hprevious]
  rfl

/-- An insert whose policy has been acquired has added no rows. -/
theorem holds_acquired (hd : d.Kept) (s : Schema ρ) (o : Options) {channel : Nat} {c c' : Client} {p : Policy}
    (hopen : (Target.openChannel : Act Client _).out ⟨d, n⟩ = (.ok channel, c))
    (hacquire : (Policy.acquire o).out c = (.ok p, c')) :
    (Insert.ledger s o d n).Holds 0 [] {} (Insert.writer s o (d.connection n).format channel) p c' := by
  obtain ⟨rfl, hconnections, hat⟩ := Client.at_openChannel hopen
  obtain ⟨hprevious, hlong⟩ := Policy.acquired_of_acquire hacquire
  have hfound : Target.autocommit c = (d.session n).autocommit := by
    rw [← hat.session, ← hat.number]
    rfl
  refine ⟨⟨rfl, rfl, rfl, rfl⟩, ⟨rfl, rfl, ⟨[], Forall₂.nil, rfl⟩, rfl⟩, by simp, rfl, hprevious.trans hfound, hlong, ?_⟩
  cases hmode : o.longTransaction with
  | true =>
    obtain ⟨c'', hout, hat'⟩ := hat.acquire_long hmode
    rw [hacquire] at hout
    cases hout
    obtain ⟨hcatalog, hsession⟩ := Insert.ledger_of_acquired s hopen hacquire hat'
    refine ⟨_, _, hat', ?_⟩
    have hlies : (Insert.ledger s o d n).Lies (.longTransaction o.commitOnClose) 0 {} _ _ :=
      .staged (by rw [hsession]) fun _ => rfl
    rw [hcatalog, Ledger.staged, if_pos rfl, hsession] at hlies
    exact hlies
  | false =>
    obtain ⟨C, S, hat', hclean, hauto, hp, _⟩ := hat.acquire (hd.of_connections hconnections) hmode hacquire
    obtain ⟨hbase, hsession⟩ := Insert.ledger_of_acquired s hopen hacquire hat'
    have hcatalog : (Insert.ledger s o d n).published {} = C := by rw [Ledger.published, Catalog.publish_empty, hbase]
    have hemptied (on : Bool) (hon : S.autocommit = on) : (Insert.ledger s o d n).emptied 0 on = S := by
      rw [Ledger.emptied, if_pos rfl, hsession, ← hon]
    have hclean' : (Insert.ledger s o d n).session.Clean := by
      rw [hsession]
      exact hclean
    refine ⟨C, S, hat', ?_⟩
    rw [hp]
    cases hstrict : o.errorOnMissingRow with
    | false =>
      have hlies : (Insert.ledger s o d n).Lies .autocommit 0 {} _ _ := .committed hclean'
      rw [hcatalog, hemptied true (by rw [hauto, hstrict]; rfl)] at hlies
      exact hlies
    | true =>
      have hlies : (Insert.ledger s o d n).Lies (.perBatch 0) 0 {} _ _ := .settled hclean'
      rw [hcatalog, hemptied false (by rw [hauto, hstrict]; rfl)] at hlies
      exact hlies

/-! ## What is added -/

/-- The records have been added in `n` batches, with the rows `A`, and the insert has been ended. -/
structure Ledger.Added (g : Ledger ρ) (records : List ρ) (n : Nat) (A : Rows) (progress : Progress) (c : Client) :
    Prop where
  sent : n = 0 ↔ records = []
  gathered : g.gather? records = some A
  totals : g.Totals n records A progress
  closed : ∃ C S, g.closed? n A = some (C, S) ∧ c.At g.connection g.channel true g.format C S

/-- For the end of an insert it only matters whether there was a batch. -/
theorem Ledger.closed?_congr (g : Ledger ρ) {m : Nat} (h : n = 0 ↔ m = 0) (A : Rows) : g.closed? n A = g.closed? m A := by
  unfold closed? emptied Ledger.staged
  simp only [h]

/-- The records can be added and left behind. -/
def Ledger.Succeeds (g : Ledger ρ) (records : List ρ) : Prop :=
  g.Loads records ∧ ∀ n A, (n = 0 ↔ records = []) → g.gather? records = some A → g.closed? n A ≠ none

theorem Ledger.Added.succeeds {g : Ledger ρ} {records : List ρ} {A : Rows} {progress : Progress} {c : Client}
    (h : g.Added records n A progress c) : g.Succeeds records := by
  obtain ⟨lines, hlines, _⟩ := h.totals.bytes
  obtain ⟨C, S, hclosed, _⟩ := h.closed
  refine ⟨⟨⟨A, h.gathered⟩, lines, hlines⟩, ?_⟩
  rintro m B hm hB hnone
  have hsame := h.gathered
  rw [hB] at hsame
  cases hsame
  rw [g.closed?_congr (hm.trans h.sent.symm), hclosed] at hnone
  cases hnone

/-- An insert starts when its channel is opened and its policy acquired. -/
def Insert.Starts (o : Options) (d : Database) (n : Nat) : Prop :=
  ∃ channel c p c', (Target.openChannel : Act Client (Except DriverError Nat)).out ⟨d, n⟩ = (.ok channel, c) ∧
    (Policy.acquire o).out c = (.ok p, c')

/-- A long transaction begins with what was there. -/
theorem Insert.Starts.long (h : Insert.Starts o d n) (s : Schema ρ) (hlong : o.longTransaction = true) :
    (Insert.ledger s o d n).catalog = d.catalog ∧
      (Insert.ledger s o d n).session = { d.session n with autocommit := false } := by
  obtain ⟨channel, c, p, c', hopen, hacquire⟩ := h
  obtain ⟨_, _, hat⟩ := Client.at_openChannel hopen
  obtain ⟨c'', hout, hat'⟩ := hat.acquire_long hlong
  rw [hacquire] at hout
  cases hout
  exact Insert.ledger_of_acquired s hopen hacquire hat'

/-- Transactions for each batch begin with nothing staged: what was there has been published. -/
theorem Insert.Starts.each (h : Insert.Starts o d n) (hd : d.Kept) (s : Schema ρ) (hlong : o.longTransaction = false) :
    (Insert.ledger s o d n).session.Clean ∧
      d.catalog.Moved (d.session n) (Insert.ledger s o d n).catalog (Insert.ledger s o d n).session := by
  obtain ⟨channel, c, p, c', hopen, hacquire⟩ := h
  obtain ⟨_, hconnections, hat⟩ := Client.at_openChannel hopen
  obtain ⟨C, S, hat', hclean, _, _, hmoved⟩ := hat.acquire (hd.of_connections hconnections) hlong hacquire
  obtain ⟨hcatalog, hsession⟩ := Insert.ledger_of_acquired s hopen hacquire hat'
  rw [hcatalog, hsession]
  exact ⟨hclean, hmoved⟩

/-- **What a sequential insert comes to.** It succeeds exactly when it starts and its records can be added and left
behind, and it adds their rows. -/
theorem insertAll_added (hd : d.Kept) (s : Schema ρ) (hsequential : o.concurrent = false) (records : List ρ) :
    let out := (insertAll s o records).out (Client.mk d n)
    (Insert.Starts o d n ∧ ∃ m A progress, out.1.result = .ok progress ∧
        (Insert.ledger s o d n).Added records m A progress out.2) ∨
      ¬ (Insert.Starts o d n ∧ (Insert.ledger s o d n).Succeeds records) ∧ ∃ e, out.1.result = .error e := by
  intro out
  have hout : out = _ := out_insertAll s o records (Client.mk d n)
  rcases hopen : (Target.openChannel : Act Client (Except DriverError Nat)).out ⟨d, n⟩ with ⟨e | channel, c⟩
  · refine Or.inr ⟨?_, _, by rw [hout, hopen]⟩
    rintro ⟨⟨channel, c', p, c'', hopen', _⟩, _⟩
    rw [hopen] at hopen'
    cases hopen'
  rcases hacquire : (Policy.acquire o).out c with ⟨e | p, c'⟩
  · refine Or.inr ⟨?_, e, by rw [hout, hopen]; simp only [hacquire]⟩
    rintro ⟨⟨channel', c₁, p, c₂, hopen', hacquire'⟩, _⟩
    rw [hopen] at hopen'
    cases hopen'
    rw [hacquire] at hacquire'
    cases hacquire'
  have hstarts : Insert.Starts o d n := ⟨channel, c, p, c', hopen, hacquire⟩
  have hholds := holds_acquired hd s o hopen hacquire
  have hrun : out = Insert.finish (direct Client) ((Insert.drive (direct Client)
      (cutRecords s (d.connection n).format (o.effectiveBatchSize (d.connection n).format) records)).out
        ⟨Insert.writer s o (d.connection n).format channel, p, 0⟩ c') := by
    rw [hout, hopen]
    simp only [hacquire]
    exact (Insert.load_of_sequential s hsequential _ records channel p c').trans (Insert.out_run ..)
  rcases hholds.drive (o.effectiveBatchSize (d.connection n).format) records 0 with
    ⟨m, A, w, p', taken, c'', hdrive, hadded, hcovers⟩ | ⟨hloads, e, j, c'', hdrive⟩
  · have hdrive' := hrun.trans (congrArg _ hdrive)
    rcases hadded.finish hcovers taken with ⟨C, S, c₃, hclosed, hfinish, hat⟩ | ⟨hclosed, e, c₃, hfinish⟩
    · rw [hfinish] at hdrive'
      rw [hdrive']
      exact Or.inl ⟨hstarts, m, A, w.progress, rfl, hadded.sent, hadded.gathered, hadded.totals, C, S, hclosed, hat⟩
    · rw [hfinish] at hdrive'
      rw [hdrive']
      exact Or.inr ⟨fun h => h.2.2 m A hadded.sent hadded.gathered hclosed, e, rfl⟩
  · have hdrive' := hrun.trans (congrArg _ hdrive)
    rw [hdrive']
    exact Or.inr ⟨fun h => hloads h.2.1, e, rfl⟩

/-- What an insert comes to that succeeds, whether it is pipelined or not. -/
theorem insertAll_ok (hd : d.Kept) (s : Schema ρ) (o : Options) (records : List ρ) {progress : Progress}
    (h : ((insertAll s o records).out (Client.mk d n)).1.result = .ok progress) :
    Insert.Starts o d n ∧ ∃ m A, (Insert.ledger s o d n).Added records m A progress
      ((insertAll s o records).out (Client.mk d n)).2 := by
  obtain ⟨hstate, hresult⟩ := result_of_sequential s o records ⟨d, n⟩
  have hsequential :
      ((insertAll s { o with concurrent := false } records).out (Client.mk d n)).1.result = .ok progress := by
    rcases hresult with heq | ⟨_, _, _, _, _, hq⟩
    · exact heq.trans h
    · rw [h] at hq
      cases hq
  rw [hstate]
  rcases insertAll_added (o := { o with concurrent := false }) (n := n) hd s rfl records with
    ⟨hstarts, m, A, progress', hok, hadded⟩ | ⟨_, e, herror⟩
  · rw [hsequential] at hok
    cases hok
    exact ⟨hstarts, m, A, hadded⟩
  · rw [hsequential] at herror
    cases herror

/-- An insert succeeds when it starts and its records can be added and left behind, whether it is pipelined or not. -/
theorem insertAll_succeeds (hd : d.Kept) (s : Schema ρ) (o : Options) (records : List ρ) (hstarts : Insert.Starts o d n)
    (h : (Insert.ledger s o d n).Succeeds records) :
    ∃ progress, ((insertAll s o records).out (Client.mk d n)).1.result = .ok progress := by
  obtain ⟨_, hresult⟩ := result_of_sequential s o records ⟨d, n⟩
  rcases insertAll_added (o := { o with concurrent := false }) (n := n) hd s rfl records with
    ⟨_, m, A, progress, hok, _⟩ | ⟨hnot, _⟩
  · rcases hresult with heq | ⟨_, _, _, _, herror, _⟩
    · exact ⟨progress, heq.symm.trans hok⟩
    · rw [hok] at herror
      cases herror
  · exact absurd ⟨hstarts, h⟩ hnot

end BulkLoad
