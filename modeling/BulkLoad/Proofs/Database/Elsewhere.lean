import BulkLoad.Proofs.Database.Client

/-!
# Other connections at work

Between two operations of a connection others may work (`Database.meanwhile`). They neither touch the connection nor its
channels, and they take nothing away from the catalog (`Database.Spares`). So a client sees the same session as before
and a catalog that has at most grown (`Client.At.meanwhile`).
-/

namespace BulkLoad

open List

namespace Database

variable {d d' d'' : Database} {n m : Nat}

/-! ## Operations of others -/

/-- Is the operation one of another connection? -/
def Op.elsewhere (n : Nat) (d : Database) : Op → Bool
  | .createTable _ => true
  | .connect _ _ => true
  | .openChannel m => m != n
  | .closeChannel channel => d.owner? channel != some n
  | .setAutocommit m _ => m != n
  | .commit m => m != n
  | .rollback m => m != n
  | .send channel _ _ => d.owner? channel != some n

/-- The database after the operations among these that are not of connection `n`. -/
def meanwhile (n : Nat) (d : Database) (ops : List Op) : Database :=
  ops.foldl (fun d op => if op.elsewhere n d then op.apply d else d) d

/-- Connection `n` and its channels are as before, and the catalog has at most grown. -/
structure Spares (n : Nat) (d d' : Database) : Prop where
  known : n < d.connections.length → n < d'.connections.length
  connection : n < d.connections.length → d'.connection n = d.connection n
  channels : ∀ (channel : Nat) (ch : Channel), d.channels[channel]? = some ch → ch.connection = n →
    d'.channels[channel]? = some ch
  catalog : d.catalog.Extends d'.catalog

theorem Spares.refl (n : Nat) (d : Database) : Spares n d d :=
  ⟨id, fun _ => rfl, fun _ _ h _ => h, Catalog.Extends.refl _⟩

theorem Spares.trans (h : Spares n d d') (h' : Spares n d' d'') : Spares n d d'' where
  known hn := h'.known (h.known hn)
  connection hn := (h'.connection (h.known hn)).trans (h.connection hn)
  channels channel ch hch howner := h'.channels channel ch (h.channels channel ch hch howner) howner
  catalog := h.catalog.trans h'.catalog

/-- Another session of another connection is no concern of connection `n`. -/
theorem Spares.put (hm : m ≠ n) {C : Catalog} (hextends : d.catalog.Extends C) (S : Session) :
    Spares n d (d.put m C S) := by
  refine ⟨fun hn => ?_, fun _ => ?_, fun channel ch hch _ => hch, hextends⟩
  · rw [length_connections_put]
    exact hn
  · rw [connection_put, if_neg fun h => hm h.1]

/-- A change of another connection is no concern of connection `n`. -/
theorem Spares.change (hm : m ≠ n) (h : Change m d d') : Spares n d d' := by
  obtain ⟨C, S, rfl, rfl | rfl⟩ := h.exists_put
  · exact Spares.put hm (Catalog.Extends.refl _) S
  · exact Spares.put hm (Catalog.extends_publishAll _ _) S

theorem Spares.changes (hm : m ≠ n) (h : Changes m d d') : Spares n d d' := by
  induction h with
  | refl => exact Spares.refl n d
  | tail _ hchange ih => exact ih.trans (Spares.change hm hchange)

theorem spares_closeChannel {channel : Nat} (howner : d.owner? channel ≠ some n) :
    Spares n d (closeChannel channel d).state := by
  refine ⟨id, fun _ => rfl, ?_, Catalog.Extends.refl _⟩
  intro channel' ch hch hn
  have hne : channel ≠ channel' := by
    rintro rfl
    exact howner (by rw [owner?, hch, Option.map_some, hn])
  show (d.channels.modify channel _)[channel']? = some ch
  rw [getElem?_modify, hch]
  simp only [hne, if_false, Option.map_eq_map, Option.map_some]

theorem spares_connect (n : Nat) (d : Database) (f : Format) (allowsBulk : Bool) :
    Spares n d (connect f allowsBulk d).state := by
  refine ⟨fun hn => ?_, fun hn => ?_, fun _ _ h _ => h, Catalog.Extends.refl _⟩
  · simp only [connect, length_append]
    omega
  · rw [connection_connect, if_neg (Nat.ne_of_lt hn)]

/-- **An operation of another connection** spares connection `n`. -/
theorem spares_apply {op : Op} (h : op.elsewhere n d = true) : Spares n d (op.apply d) := by
  cases op with
  | createTable t =>
    show Spares n d (Act.out (Database.createTable t) d).2
    rw [out_createTable]
    cases hcreate : d.catalog.create t with
    | error e => exact Spares.refl n d
    | ok C => exact ⟨id, fun _ => rfl, fun _ _ h _ => h, Catalog.extends_create hcreate⟩
  | connect f allowsBulk => exact spares_connect n d f allowsBulk
  | openChannel m =>
    show Spares n d (Act.out (Database.openChannel m) d).2
    rw [out_openChannel]
    split
    · refine ⟨id, fun _ => rfl, fun channel ch hch _ => ?_, Catalog.Extends.refl _⟩
      rw [getElem?_append_left (List.getElem?_eq_some_iff.mp hch).1]
      exact hch
    · exact Spares.refl n d
  | closeChannel channel => exact spares_closeChannel (bne_iff_ne.mp h)
  | setAutocommit m on => exact Spares.changes (bne_iff_ne.mp h) (changes_setAutocommit m d on)
  | commit m => exact Spares.change (bne_iff_ne.mp h) .commit
  | rollback m => exact Spares.change (bne_iff_ne.mp h) .rollback
  | send channel header payload =>
    rcases changes_send d channel header payload with hsame | ⟨m, howner, hchanges⟩
    · show Spares n d (Act.out (Database.send channel header payload) d).2
      rw [hsame]
      exact Spares.refl n d
    · refine Spares.changes ?_ hchanges
      rintro rfl
      exact bne_iff_ne.mp h howner

/-- **Whatever others do meanwhile**, it spares connection `n`. -/
theorem spares_meanwhile (n : Nat) : ∀ (d : Database) (ops : List Op), Spares n d (d.meanwhile n ops)
  | d, [] => Spares.refl n d
  | d, op :: ops => by
    show Spares n d (meanwhile n (if op.elsewhere n d then op.apply d else d) ops)
    split
    · next h => exact (spares_apply h).trans (spares_meanwhile n _ ops)
    · exact spares_meanwhile n d ops

/-- The session of a connection that is spared. -/
theorem Spares.session (h : Spares n d d') (hn : n < d.connections.length) : d'.session n = d.session n :=
  congrArg Connection.session (h.connection hn)

end Database

/-- A client sees its session and its channel as before, and a catalog that has at most grown. -/
theorem Client.At.meanwhile {n channel : Nat} {closed : Bool} {f : Format} {C : Catalog} {S : Session} {c : Client}
    (h : c.At n channel closed f C S) (ops : List Database.Op) : ∃ C', C.Extends C' ∧
      Client.At n channel closed f C' S { c with database := c.database.meanwhile n ops } := by
  have hspares := Database.spares_meanwhile n c.database ops
  have hextends := hspares.catalog
  rw [h.catalog] at hextends
  refine ⟨_, hextends, h.number, hspares.known h.known, ?_, hspares.channels _ _ h.channel rfl, rfl, ?_⟩
  · rw [hspares.connection h.known]
    exact h.format
  · rw [hspares.session h.known]
    exact h.session

end BulkLoad
