import Rapport.Proofs.Confluence
import Rapport.Proofs.Graph.Source

set_option autoImplicit false

/-! # Channels of the combined one's name

A reinforcement names two relations, that of its channel and the combined one. Where the channel has
the combined one's name they are one relation, named twice. In memory the relation is reinforced
twice then, and in a database once. `reinforce_combined` says what both come to, and that they come
to the same just if the channel has no weight. -/

namespace Rapport

open Sql Identifier Numeral

variable {account : String} {a b : Contact} {r : Reinforcement}

/-! ## In memory -/

theorem count_relations (h : r.channel.name = Channel.combinedName) :
    r.relations.count Channel.combinedName = 2 := by
  rw [Reinforcement.relations, h]
  rfl

/-- In memory the combined relation is reinforced twice. -/
theorem Store.bond?_reinforce_combined (s : Store) (h : r.channel.name = Channel.combinedName)
    {e : String × String} (he : e ∈ r.edges a b) :
    (s.reinforce account a b r).bond? account e.1 e.2 Channel.combinedName
      = some (Bond.afterAll (s.bond? account e.1 e.2 Channel.combinedName)
          [⟨r.amount, r.timestamp⟩, ⟨r.amount, r.timestamp⟩]) := by
  have hadditions : (reinforcing account a b r).flatMap
      (·.additions account e.1 e.2 Channel.combinedName)
        = [⟨r.amount, r.timestamp⟩, ⟨r.amount, r.timestamp⟩] := by
    have hwrites : (⟨a, b, r⟩ : Tie).writes e.1 e.2 = true := Tie.writes_iff.2 he
    rw [additions_reinforcing account ⟨a, b, r⟩, if_pos rfl, Tie.additions, if_pos hwrites,
      count_relations h]
    rfl
  have hremove : ∀ account' p, .remove account' p ∉ reinforcing account a b r := by
    intro account' p hmem
    rcases List.mem_append.1 hmem with hmem | hmem
    · obtain ⟨_, _, heq⟩ := List.mem_map.1 hmem
      cases heq
    · obtain ⟨_, _, heq⟩ := List.mem_map.1 hmem
      cases heq
  have hreached : (reinforcing account a b r).any
      (·.reaches account e.1 e.2 Channel.combinedName) = true := by
    refine List.any_eq_true.2 ⟨.ensure account e.1 e.2 r.relations,
      List.mem_append_left _ (List.mem_map_of_mem he), decide_eq_true ⟨rfl, rfl, ?_⟩⟩
    exact Reinforcement.mem_relations.2 (Or.inr rfl)
  rw [reinforce, s.bond?_run hremove, if_pos hreached, hadditions]

theorem Bond.afterAll_twice (old : Option Bond) (amount timestamp : Int) :
    afterAll old [⟨amount, timestamp⟩, ⟨amount, timestamp⟩]
      = ⟨(old.getD {}).weight + 2 * amount, max (old.getD {}).updatedAt timestamp⟩ := by
  simp [afterAll, two_mul]

/-! ## In a database -/

/-- A reinforcement that is carried out changes the rows that it writes, and no others, whatever
    tables these are in. -/
theorem Connection.cells?_setRowsAt_reinforce {l : Layout} {c : Connection} {rows rows' : Rows}
    (hok : (ensured (l.tableOf account) c).1 = .ok ())
    (hrows : (ensured (l.tableOf account) c).2.rowsAt (l.tableOf account) = some rows)
    (hrun : rows.reinforce account a b r = .ok rows') (k : RowKey) :
    ((ensured (l.tableOf account) c).2.setRowsAt (l.tableOf account) rows').cells? l k
      = if k ∈ Rows.reinforcedKeys account (r.edges a b) r.relations then
          some (((c.cells? l k).getD {}).increased r.amount r.timestamp)
        else c.cells? l k := by
  have hshare := share_setRowsAt hok hrows (fun other hne =>
    Rows.confined_reinforce account a b r hne (Rows.reinforce_unit_eq_ok_iff.2 hrun)) k.account
  rw [cells?, hshare]
  by_cases hk : k.account = account
  · have hmine : c.cells? l k = rows.find? k := by
      rw [cells?, share, Rows.find?_share _ rfl, hk]
      rcases rowsAt_ensured (l.tableOf account) c (l.tableOf account) with heq | ⟨hnone, heq⟩
      · rw [← heq, hrows]
        rfl
      · rw [hnone]
        rw [heq] at hrows
        rw [← Option.some.inj hrows]
        rfl
    obtain ⟨hamount, htime⟩ := Rows.holds_of_reinforce hrun
    rw [if_pos hk, Rows.find?_share _ hk, hmine, Rows.find?_reinforce hamount htime hrun]
  · rw [if_neg hk, if_neg fun hmem => hk (Rows.mem_reinforcedKeys.1 hmem).1, cells?]

/-- In a database every relation of a written edge is reinforced once, however often it is named. -/
theorem Connection.Orderly.exists_ends_reinforce {l : Layout} {c : Connection}
    (h : c.Orderly l) (waits : Bool)
    (hok : ((ensureTable (l.tableOf account)).outcome c).1 = .ok ())
    (husable : IsUsableTable (l.tableOf account)) (hr : ¬r.multiplier < 1)
    (hamount : Word64.holds r.amount = true) (htime : Word64.holds r.timestamp = true) :
    ∃ c', ((Graph.inDatabase l account waits).serve (.reinforce a b r)).Ends c (.ok .done) c'
      ∧ ∀ e ∈ r.edges a b, ∀ relation ∈ r.relations,
        c'.cells? l ⟨account, e.1, e.2, relation⟩
          = some (((c.cells? l ⟨account, e.1, e.2, relation⟩).getD {}).increased r.amount
              r.timestamp) := by
  obtain ⟨hensured, hrows, _⟩ := h.usable_ensured hok husable rfl
  obtain ⟨rows', hrun⟩ : ∃ rows', ((c.rowsAt (l.tableOf account)).getD .empty).reinforce account a b r
      = .ok rows' := ⟨_, Rows.reinforce_eq hamount htime _ account a b⟩
  refine ⟨_, Graph.ends_serve_reinforce waits hr (h.ends_transact hok husable rfl
    (Rows.reinforce_unit_eq_ok_iff.2 hrun)), fun e he relation hrelation => ?_⟩
  rw [cells?_setRowsAt_reinforce hensured hrows hrun]
  exact if_pos (Rows.mem_reinforcedKeys.2 ⟨rfl, he, hrelation⟩)

/-! ## Both -/

/-- A reinforcement through a channel of the combined one's name adds its amount twice in memory and
    once in a database, which is the same if the channel has no weight, and never else. -/
theorem reinforce_combined (l : Layout) (waits : Bool) (run : List (String × Request))
    (account : String) (a b : Contact) (r : Reinforcement) (s : Store)
    (hs : (connectionAfter l waits run).Holds l s)
    (hname : r.channel.name = Channel.combinedName) (hr : 1 ≤ r.multiplier)
    (hok : ((Connection.ensureTable (l.tableOf account)).outcome
      (connectionAfter l waits run)).1 = .ok ())
    (husable : IsUsableTable (l.tableOf account))
    (hamount : Word64.holds r.amount = true) (htime : Word64.holds r.timestamp = true)
    (hfits : ∀ e ∈ r.edges a b, Word64.holds
      (((s.bond? account e.1 e.2 Channel.combinedName).getD {}).weight + r.amount) = true) :
    let old e := (s.bond? account e.1 e.2 Channel.combinedName).getD {}
    let inMemory := ((Graph.inMemory account).serve (.reinforce a b r)).outcome s
    let inDatabase := ((Graph.inDatabase l account waits).serve (.reinforce a b r)).outcome
      (connectionAfter l waits run)
    let bond? e := inMemory.2.state.bond? account e.1 e.2 Channel.combinedName
    let cells? e := inDatabase.2.state.cells? l ⟨account, e.1, e.2, Channel.combinedName⟩
    inMemory.1 = .ok .done ∧ inDatabase.1 = .ok .done
      ∧ (∀ e ∈ r.edges a b,
        bond? e = some ⟨(old e).weight + 2 * r.amount, max (old e).updatedAt r.timestamp⟩
        ∧ cells? e = some (.ofBond ⟨(old e).weight + r.amount,
            max (old e).updatedAt r.timestamp⟩))
      ∧ ((∀ e ∈ r.edges a b, cells? e = (bond? e).map Cells.ofBond) ↔ r.channel.weight = 0) := by
  intro old inMemory inDatabase bond? cells?
  have hnot : ¬r.multiplier < 1 := by omega
  obtain ⟨c', hends, hcells⟩ :=
    (Connection.Orderly.connectionAfter l waits run).exists_ends_reinforce (a := a) (b := b) waits
      hok husable hnot hamount htime
  obtain ⟨hresult, hstate⟩ := (Graph.ends_serve_inMemory account (.reinforce a b r) s).outcome
  have heffect : (Request.reinforce a b r).effect account s = s.reinforce account a b r := by
    rw [Request.effect_of_ne_remove (by simp), Request.ties, if_neg hnot]
    rfl
  have hbond : ∀ e ∈ r.edges a b, bond? e
      = some ⟨(old e).weight + 2 * r.amount, max (old e).updatedAt r.timestamp⟩ := by
    intro e he
    show inMemory.2.state.bond? account e.1 e.2 Channel.combinedName = _
    rw [hstate, heffect, s.bond?_reinforce_combined hname he, Bond.afterAll_twice]
  have hcell : ∀ e ∈ r.edges a b, cells? e
      = some (.ofBond ⟨(old e).weight + r.amount, max (old e).updatedAt r.timestamp⟩) := by
    intro e he
    have hcombined := hcells e he _ (Reinforcement.mem_relations.2 (Or.inr rfl))
    show inDatabase.2.state.cells? l _ = _
    rw [hends.outcome.2, hcombined, hs]
    have hincreased : Cells.ofBond ((old e).reinforced r.amount r.timestamp)
        = (Cells.ofBond (old e)).increased r.amount r.timestamp :=
      Cells.ofBond_reinforced (hfits e he)
    rw [Bond.reinforced] at hincreased
    rw [hincreased]
    show some (((Option.map Cells.ofBond (s.bond? account e.1 e.2 Channel.combinedName)).getD
      {}).increased r.amount r.timestamp) = some ((Cells.ofBond (old e)).increased _ _)
    cases hbond : s.bond? account e.1 e.2 Channel.combinedName with
    | none => simp only [old, hbond]; rfl
    | some bond => simp only [old, hbond]; rfl
  refine ⟨?_, hends.outcome.1, fun e he => ⟨hbond e he, hcell e he⟩, ?_⟩
  · rw [hresult, Request.answer, Graph.check, if_neg hnot]
    rfl
  · have hamount_iff : r.amount = 0 ↔ r.channel.weight = 0 := by
      rw [Reinforcement.amount, Int.mul_eq_zero]
      omega
    have hsame : ∀ e ∈ r.edges a b, (cells? e = (bond? e).map Cells.ofBond ↔ r.amount = 0) := by
      intro e he
      rw [hcell e he, hbond e he, Option.map_some, Option.some.injEq, Cells.ofBond, Cells.ofBond,
        Cells.mk.injEq, Amount.whole.injEq]
      dsimp only
      omega
    rw [← hamount_iff]
    constructor
    · intro h
      have hedge : (a.key, b.key) ∈ r.edges a b := Reinforcement.mem_edges.2 (Or.inl ⟨rfl, rfl⟩)
      exact (hsame _ hedge).1 (h _ hedge)
    · exact fun h e he => (hsame e he).2 h

/-- A reinforcement through a channel whose name is the combined one's but for its capital letter.
    -/
def capital (weight : Int) : Reinforcement where
  channel := .named "Combined" weight
  timestamp := 10

theorem holds_empty (l : Layout) : ({} : Connection).Holds l {} := by
  intro k
  rw [Store.bond?_empty]
  rfl

theorem reinforce_combined_capital :
    ({} : Connection).Holds {} {}
      ∧ ((({} : Store).reinforce "acct-1" ⟨"a", none⟩ ⟨"b", none⟩ (capital 0)).bond?
        "acct-1" "a" "b" Channel.combinedName).map Cells.ofBond
      = (((Graph.inDatabase {} "acct-1" true).serve
          (.reinforce ⟨"a", none⟩ ⟨"b", none⟩ (capital 0))).outcome {}).2.state.cells? {}
            ⟨"acct-1", "a", "b", Channel.combinedName⟩ := by
  have hholds : (connectionAfter {} true []).Holds {} {} := holds_empty {}
  obtain ⟨_, _, _, hsame⟩ := reinforce_combined {} true [] "acct-1" ⟨"a", none⟩ ⟨"b", none⟩
    (capital 0) {} hholds (by decide +kernel) (by decide +kernel) (by decide +kernel)
    (isSoundTable_usual "acct-1").toIsUsableTable (by decide +kernel) (by decide +kernel)
    (by decide +kernel)
  have hedge := hsame.2 (by decide +kernel) ("a", "b") (by decide +kernel)
  exact ⟨hholds, hedge.symm⟩

/-- Five once in a database, and twice in memory. -/
theorem ne_reinforce_capital :
    ({} : Connection).Holds {} {}
      ∧ (((Graph.inMemory "acct-1").serve
          (.reinforce ⟨"a", none⟩ ⟨"b", none⟩ (capital 5))).outcome {}).2.state.bond?
            "acct-1" "a" "b" Channel.combinedName = some ⟨10, 10⟩
      ∧ (((Graph.inDatabase {} "acct-1" true).serve
          (.reinforce ⟨"a", none⟩ ⟨"b", none⟩ (capital 5))).outcome {}).2.state.cells? {}
            ⟨"acct-1", "a", "b", Channel.combinedName⟩ = some (.ofBond ⟨5, 10⟩) :=
  ⟨holds_empty {}, by decide +kernel, by decide +kernel⟩

end Rapport
