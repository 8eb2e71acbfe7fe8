import Rapport.Proofs.Graph.Mirror
import Rapport.Proofs.Sql.Answer

set_option autoImplicit false

/-! # Requests to a graph in a database

Where a database mirrors a store, the graph of an account answers every request as a graph in memory
does, and the database mirrors the store afterwards (`exists_serve`). The integers that come up have
to fit (`Request.Fits`), the table of the account has to be there or to be made ready, and its name
has to be sound (`IsSoundTable`). -/

namespace Rapport

open Sql Identifier Numeral

/-! ## What a request needs -/

/-- A name under which rows can be stored and found. -/
structure IsUsableTable (table : String) : Prop where
  /-- Statements can write it. -/
  free : standing table = .free
  /-- The database has no table of its own under it. -/
  foreign : isBuiltIn table = false

/-- A name under which a table can be worked with in every way. -/
structure IsSoundTable (table : String) : Prop extends IsUsableTable table where
  /-- It is not the name under which rows are seen a second time. -/
  unshadowed : isShadowed table = false

namespace Request

/-- Whether a request gets as far as the table of its account. -/
def NeedsTable (q : Request) : Prop :=
  match q with
  | reinforce _ _ _ | clique _ _ => q.ties ≠ []
  | remove _ | bond _ _ _ | related _ => True

/-- Whether all integers have 64 bits that a request hands over, accumulates or adds up. -/
def Fits (account : String) (s : Store) : Request → Prop
  | remove (.stale cutoff) => Word64.holds cutoff = true
  | remove _ | bond _ _ _ => True
  | related q =>
    Word64.holds q.lowerBound = true ∧ (∀ cutoff ∈ q.updateCutoff, Word64.holds cutoff = true)
      ∧ Word64.holds q.limit = true
      ∧ ∀ e ∈ (Ranking.totals (q.seeds.flatMap fun seed =>
          Store.contributions q (s.outgoing account seed))).entries, Word64.holds e.2 = true
  | q =>
    (∀ t ∈ q.ties, Word64.holds t.reinforcement.amount = true
      ∧ Word64.holds t.reinforcement.timestamp = true)
    ∧ ∀ ties, ties <+: q.ties → ∀ origin target relation b,
        (s.tieAll account ties).bond? account origin target relation = some b →
          Word64.holds b.weight = true

end Request

/-! ## How a request ends -/

namespace Graph

open Connection

variable {l : Layout} {account : String} {c c' : Connection}

/-- A reinforcement of a message's worth or more ends as its transaction does. -/
theorem ends_serve_reinforce (waits : Bool) {a b : Contact} {r : Reinforcement}
    (hr : ¬r.multiplier < 1) {result : Except Failure Unit}
    (h : (transact .reinforce account (l.tableOf account) fun rows =>
      return (← rows.reinforce account a b r, ())).Ends c result c') :
    ((inDatabase l account waits).serve (.reinforce a b r)).Ends c
      (result.map fun _ => .done) c' := by
  have hreinforce : (reinforceInDatabase l account a b r).Ends c result c' :=
    (ends_check_of_not_lt hr account c).bind h
  exact hreinforce.map fun _ => Answer.done

/-- A removal ends as its transaction does. -/
theorem ends_serve_remove (waits : Bool) {what : Removal} {result : Except Failure Nat}
    (h : (transact (.remove what) account (l.tableOf account) fun rows =>
      rows.remove account what (isShadowed (l.tableOf account))).Ends c result c') :
    ((inDatabase l account waits).serve (.remove what)).Ends c (result.map fun _ => .done) c' := by
  have hserve : (inDatabase l account waits).serve (.remove what) = (do
      transact (.remove what) account (l.tableOf account)
        (fun rows => rows.remove account what (isShadowed (l.tableOf account)))
      >>= fun count => Action.note (.removed what account (.rows count))
      return .done) := rfl
  rw [hserve]
  cases result with
  | ok count => exact (h.bind (Action.Ends.note _ _)).bind (Action.Ends.pure Answer.done _)
  | error e => exact (h.bind_error _).bind_error _

end Graph

namespace Mirrors

variable {l : Layout} {s : Store} {c : Connection} {db : Database} {account : String}

/-! ## Reinforcing -/

theorem exists_reinforce (h : Mirrors l s c db)
    (hok : ((Connection.ensureTable (l.tableOf account)).outcome c).1 = .ok ())
    (husable : IsUsableTable (l.tableOf account)) {a b : Contact} {r : Reinforcement}
    (hr : ¬r.multiplier < 1) (hname : r.channel.name ≠ Channel.combinedName)
    (hamount : Word64.holds r.amount = true) (htime : Word64.holds r.timestamp = true)
    (hfits : ∀ origin target relation bond,
      (s.reinforce account a b r).bond? account origin target relation = some bond →
        Word64.holds bond.weight = true) :
    ∃ c' db', (Graph.reinforceInDatabase l account a b r).Ends c (.ok ()) c'
      ∧ Mirrors l (s.reinforce account a b r) c' db' ∧ l.tableOf account ∈ c'.ready := by
  obtain ⟨_, c', db', hends, _, hmirrors, hready⟩ := h.exists_transact .reinforce
    (fun rows => return (← rows.reinforce account a b r, ())) (s.reinforce account a b r)
    (fun _ => True) hok husable.foreign (by rw [husable.free]; rfl)
    (fun rows hrows => by
      obtain ⟨rows', hrun, hshows, hothers⟩ :=
        Rows.exists_reinforce hrows hname hamount htime hfits
      exact ⟨rows', (), by rw [hrun]; rfl, trivial, hshows, hothers⟩)
    (fun account' haccount origin target relation => by
      rw [s.bond?_reinforce account a b hname, if_neg fun hwritten => haccount hwritten.1])
  exact ⟨c', db', (Graph.ends_check_of_not_lt hr account c).bind hends, hmirrors, hready⟩

/-- The pairs of a clique are reinforced one after the other. -/
theorem exists_reinforceAll (h : Mirrors l s c db)
    {r : Reinforcement} (hr : ¬r.multiplier < 1) (hname : r.channel.name ≠ Channel.combinedName)
    {ps : List (Contact × Contact)}
    (husable : (ps.map fun p => (⟨p.1, p.2, r⟩ : Tie)) ≠ [] → IsUsableTable (l.tableOf account))
    (hok : (ps.map fun p => (⟨p.1, p.2, r⟩ : Tie)) ≠ [] →
      ((Connection.ensureTable (l.tableOf account)).outcome c).1 = .ok ())
    (hints : ∀ t ∈ ps.map fun p => (⟨p.1, p.2, r⟩ : Tie),
      Word64.holds t.reinforcement.amount = true ∧ Word64.holds t.reinforcement.timestamp = true)
    (hfits : ∀ ties, ties <+: (ps.map fun p => (⟨p.1, p.2, r⟩ : Tie)) →
      ∀ origin target relation b,
        (s.tieAll account ties).bond? account origin target relation = some b →
          Word64.holds b.weight = true) :
    ∃ c' db', (Graph.reinforceAll account (Graph.reinforceInDatabase l account) r ps).Ends c
        (.ok 0) c'
      ∧ Mirrors l (s.tieAll account (ps.map fun p => ⟨p.1, p.2, r⟩)) c' db' := by
  induction ps generalizing s c db with
  | nil => exact ⟨c, db, Action.Ends.pure 0 c, h⟩
  | cons p rest ih =>
    obtain ⟨a, b⟩ := p
    obtain ⟨hamount, htime⟩ := hints _ List.mem_cons_self
    obtain ⟨c₁, db₁, hpair, h₁, hready⟩ := h.exists_reinforce (hok (List.cons_ne_nil _ _))
      (husable (List.cons_ne_nil _ _)) hr hname hamount htime
      (hfits [⟨a, b, r⟩] (List.prefix_append [_] _))
    -- The first pair has left the table ready, and so it is found for the rest.
    obtain ⟨c₂, db₂, hrest, h₂⟩ := ih h₁ (fun _ => husable (List.cons_ne_nil _ _))
      (fun _ => (Connection.ends_ensureTable_of_mem hready).outcome.1)
      (fun t ht => hints t (List.mem_cons_of_mem _ ht))
      (fun ties hties => hfits (⟨a, b, r⟩ :: ties) ((List.prefix_cons_inj _).2 hties))
    exact ⟨c₂, db₂, hpair.attempt.bind hrest, h₂⟩

/-! ## One request -/

variable {q : Request} {waits : Bool}

theorem exists_serve_reinforce (h : Mirrors l s c db) {a b : Contact} {r : Reinforcement}
    (htyped : (Request.reinforce a b r).IsTyped) (hfits : (Request.reinforce a b r).Fits account s)
    (hok : (Request.reinforce a b r).NeedsTable →
      ((Connection.ensureTable (l.tableOf account)).outcome c).1 = .ok ())
    (husable : (Request.reinforce a b r).NeedsTable → IsUsableTable (l.tableOf account)) :
    ∃ c' db', ((Graph.inDatabase l account waits).serve (.reinforce a b r)).Ends c
        ((Request.reinforce a b r).answer account s) c'
      ∧ Mirrors l ((Request.reinforce a b r).effect account s) c' db' := by
  simp only [Request.answer, Request.effect, Request.ties, Request.NeedsTable, Request.Fits,
    Graph.check] at hok husable hfits ⊢
  by_cases hr : r.multiplier < 1
  · rw [if_pos hr, if_pos hr]
    have hcheck := Graph.ends_check_of_lt hr account c
    exact ⟨c, db, Action.Ends.bind_error _ (Action.Ends.bind_error _ hcheck), h⟩
  · rw [if_neg hr] at hok husable hfits ⊢
    rw [if_neg hr]
    obtain ⟨hamount, htime⟩ := hfits.1 _ List.mem_cons_self
    obtain ⟨c', db', hends, hmirrors, _⟩ := h.exists_reinforce (a := a) (b := b)
      (hok (List.cons_ne_nil _ _)) (husable (List.cons_ne_nil _ _)) hr (htyped _ rfl) hamount htime
      (hfits.2 [⟨a, b, r⟩] List.prefix_rfl)
    exact ⟨c', db', hends.bind (Action.Ends.pure Answer.done c'), hmirrors⟩

theorem exists_serve_clique (h : Mirrors l s c db) {contacts : List Contact} {r : Reinforcement}
    (htyped : (Request.clique contacts r).IsTyped)
    (hfits : (Request.clique contacts r).Fits account s)
    (hok : (Request.clique contacts r).NeedsTable →
      ((Connection.ensureTable (l.tableOf account)).outcome c).1 = .ok ())
    (husable : (Request.clique contacts r).NeedsTable → IsUsableTable (l.tableOf account)) :
    ∃ c' db', ((Graph.inDatabase l account waits).serve (.clique contacts r)).Ends c
        ((Request.clique contacts r).answer account s) c'
      ∧ Mirrors l ((Request.clique contacts r).effect account s) c' db' := by
  simp only [Request.answer, Request.effect, Request.ties, Request.NeedsTable, Request.Fits,
    Graph.check] at hok husable hfits ⊢
  by_cases hr : r.multiplier < 1
  · rw [if_pos hr, if_pos hr]
    have hcheck := Graph.ends_check_of_lt hr account c
    exact ⟨c, db, Action.Ends.bind_error _ (Action.Ends.bind_error _ hcheck), h⟩
  · rw [if_neg hr] at hok husable hfits ⊢
    rw [if_neg hr]
    obtain ⟨c', db', hall, hmirrors⟩ := h.exists_reinforceAll hr (htyped _ rfl) husable hok
      hfits.1 hfits.2
    have hclique : (Graph.reinforceClique account (Graph.reinforceInDatabase l account) contacts
        r).Ends c (.ok ()) c' :=
      (Graph.ends_check_of_not_lt hr account c).bind (hall.bind (Action.Ends.pure () c'))
    exact ⟨c', db', hclique.bind (Action.Ends.pure Answer.done c'), hmirrors⟩

theorem exists_serve_remove (h : Mirrors l s c db) {what : Removal}
    (hsource : ∀ name, what ≠ .source name) (hfits : (Request.remove what).Fits account s)
    (hok : ((Connection.ensureTable (l.tableOf account)).outcome c).1 = .ok ())
    (hsound : IsSoundTable (l.tableOf account)) :
    ∃ c' db', ((Graph.inDatabase l account waits).serve (.remove what)).Ends c
        ((Request.remove what).answer account s) c'
      ∧ Mirrors l ((Request.remove what).effect account s) c' db' := by
  obtain ⟨count, c', db', hends, _, hmirrors, _⟩ := h.exists_transact (.remove what)
    (fun rows => rows.remove account what (isShadowed (l.tableOf account)))
    (s.remove account what.takes) (fun _ => True) hok hsound.foreign
    (by rw [hsound.free]; rfl)
    (fun rows hrows => by
      have hcutoff : ∀ cutoff, what = .stale cutoff → Word64.holds cutoff = true := by
        rintro cutoff rfl
        exact hfits
      obtain ⟨rows', n, hrun, hshows, hothers⟩ := Rows.exists_remove hrows hsource hcutoff
      exact ⟨rows', n, by rw [hsound.unshadowed, hrun], trivial, hshows, hothers⟩)
    (fun account' haccount origin target relation => by
      rw [s.bond?_remove, if_neg fun htaken => haccount htaken.1])
  exact ⟨c', db', Graph.ends_serve_remove waits hends, hmirrors⟩

theorem exists_serve_bond (h : Mirrors l s c db) {a b : Contact} {relation : Option String}
    (hok : ((Connection.ensureTable (l.tableOf account)).outcome c).1 = .ok ())
    (husable : IsUsableTable (l.tableOf account)) :
    ∃ c' db', ((Graph.inDatabase l account waits).serve (.bond a b relation)).Ends c
        ((Request.bond a b relation).answer account s) c'
      ∧ Mirrors l ((Request.bond a b relation).effect account s) c' db' := by
  obtain ⟨_, c', db', hends, rfl, hmirrors, _⟩ := h.exists_transact .read
    (fun rows => .ok (rows, (rows.bond? account a.key b.key (Graph.relationName relation)).map
      fun cells => (⟨cells.weight.value, cells.updatedAt⟩ : Bond))) s
    (· = s.bond? account a.key b.key (Graph.relationName relation)) hok
    husable.foreign (by rw [husable.free]; rfl)
    (fun rows hrows => by
      refine ⟨rows, _, rfl, ?_, hrows, fun _ _ => rfl⟩
      rw [Rows.bond?, hrows, Option.map_map]
      cases s.bond? account a.key b.key (Graph.relationName relation) <;> rfl)
    (fun _ _ _ _ _ => rfl)
  exact ⟨c', db', hends.bind (Action.Ends.pure _ c'), hmirrors⟩

theorem exists_serve_related (h : Mirrors l s c db) {q : Query}
    (hfits : (Request.related q).Fits account s)
    (hok : ((Connection.ensureTable (l.tableOf account)).outcome c).1 = .ok ())
    (husable : IsUsableTable (l.tableOf account)) :
    ∃ c' db', ((Graph.inDatabase l account waits).serve (.related q)).Ends c
        ((Request.related q).answer account s) c'
      ∧ Mirrors l ((Request.related q).effect account s) c' db' := by
  obtain ⟨hbound, hcutoff, hlimit, hsums⟩ := hfits
  obtain ⟨_, c', db', hends, rfl, hmirrors, _⟩ := h.exists_transact .query
    (fun rows => return (rows, ← rows.related account q)) s (· = s.related account q) hok
    husable.foreign (by rw [husable.free]; rfl)
    (fun rows hrows => by
      refine ⟨rows, _, ?_, rfl, hrows, fun _ _ => rfl⟩
      rw [Rows.related_eq hrows hbound hcutoff hlimit hsums]
      rfl)
    (fun _ _ _ _ _ => rfl)
  exact ⟨c', db', hends.bind (Action.Ends.pure _ c'), hmirrors⟩

/-- A graph in a database that mirrors a store answers as a graph in the store does, and the
    database mirrors the store afterwards. -/
theorem exists_serve (h : Mirrors l s c db) (htyped : q.IsTyped)
    (hsource : ∀ name, q ≠ .remove (.source name)) (hfits : q.Fits account s)
    (hok : q.NeedsTable → ((Connection.ensureTable (l.tableOf account)).outcome c).1 = .ok ())
    (hsound : q.NeedsTable → IsSoundTable (l.tableOf account)) :
    ∃ c' db', ((Graph.inDatabase l account waits).serve q).Ends c (q.answer account s) c'
      ∧ Mirrors l (q.effect account s) c' db' := by
  cases q with
  | reinforce a b r =>
    exact h.exists_serve_reinforce htyped hfits hok fun hneeds => (hsound hneeds).toIsUsableTable
  | clique contacts r =>
    exact h.exists_serve_clique htyped hfits hok fun hneeds => (hsound hneeds).toIsUsableTable
  | remove what =>
    exact h.exists_serve_remove (fun name heq => hsource name (by rw [heq])) hfits (hok trivial)
      (hsound trivial)
  | bond a b relation => exact h.exists_serve_bond (hok trivial) (hsound trivial).toIsUsableTable
  | related q => exact h.exists_serve_related hfits (hok trivial) (hsound trivial).toIsUsableTable

end Mirrors

end Rapport
