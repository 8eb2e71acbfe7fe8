import Mathlib.Algebra.Order.BigOperators.Group.List
import Rapport.Proofs.Contact
import Rapport.Proofs.Graph.Suggestion
import Rapport.Proofs.Sql.Amount

set_option autoImplicit false

/-! # Seeds among the suggestions

A query leaves out its seeds by key, and suggests what is left by address. One contact may have
several keys, with a data source in front of its address and without, so a contact that is asked
about can be suggested under the address that it was asked by. `sparesSeeds_iff` says when this
cannot happen, whatever is asked about a relation: just if every edge with the relation is plain,
that is, leaves a contact without a source and leads to one that is suggested under its own key.

Edges from a contact to itself and those of negative weight play no part, as no query counts
them. -/

namespace Rapport

open Sql Identifier

/-! ## Plain edges -/

/-- An edge whose ends go by no other name: the one that it leaves can be asked about under its own
    key only, and the one that it leads to is suggested under its own key. -/
structure PlainEdge (origin target : String) : Prop where
  origin : Contact.separator ∉ origin.toList
  target : Contact.addressOfKey target = target

instance (origin target : String) : Decidable (PlainEdge origin target) :=
  decidable_of_iff (Contact.separator ∉ origin.toList ∧ Contact.addressOfKey target = target)
    ⟨fun h => ⟨h.1, h.2⟩, fun h => ⟨h.origin, h.target⟩⟩

/-- A query for a relation that counts all edges with it that have no negative weight. -/
def Query.inclusive (relation : String) (contacts : List String) (source : Option String) :
    Query where
  contacts := contacts
  source := source
  channel := some ⟨relation, 1⟩
  lowerBound := 0

theorem Query.mem_seedKeys {q : Query} {k : String} :
    k ∈ q.seedKeys ↔ ∃ address ∈ q.contacts, (⟨address, q.source⟩ : Contact).key = k := by
  simp only [seedKeys, List.mem_toFinset, List.mem_map]

theorem Query.counts_inclusive {relation : String} {contacts : List String}
    {source : Option String} {b : Bond} (h : 0 ≤ b.weight) :
    (inclusive relation contacts source).Counts b :=
  ⟨h, nofun⟩

/-- Along a plain edge no query comes to an address that it asks about. -/
theorem PlainEdge.not_mem_contacts {origin target : String} (h : PlainEdge origin target)
    {q : Query} (horigin : origin ∈ q.seedKeys) (htarget : target ∉ q.seedKeys) :
    Contact.addressOfKey target ∉ q.contacts := by
  obtain ⟨address, _, hkey⟩ := Query.mem_seedKeys.1 horigin
  have hsource : q.source = none := by
    cases hq : q.source with
    | none => rfl
    | some source =>
      rw [hq] at hkey
      refine absurd ?_ h.origin
      rw [← hkey, Contact.toList_key_of_source]
      exact List.mem_append_right _ List.mem_cons_self
  rw [h.target]
  intro hmem
  exact htarget (Query.mem_seedKeys.2 ⟨target, hmem, by rw [hsource]; rfl⟩)

/-- Along any other edge some query does. -/
theorem exists_contacts_of_not_plain {origin target : String} (hne : origin ≠ target)
    (h : ¬PlainEdge origin target) (relation : String) :
    ∃ contacts source, let q := Query.inclusive relation contacts source
      origin ∈ q.seedKeys ∧ target ∉ q.seedKeys ∧ Contact.addressOfKey target ∈ q.contacts := by
  by_cases htarget : Contact.addressOfKey target = target
  · -- The origin has a source, and the address of the target is asked about as one of that source.
    have horigin : Contact.separator ∈ origin.toList :=
      not_not.1 fun hnot => h ⟨hnot, htarget⟩
    obtain ⟨address, source, rfl⟩ := Contact.exists_key_eq horigin
    refine ⟨[address, target], some source, ?_, ?_, ?_⟩
    · exact Query.mem_seedKeys.2 ⟨address, List.mem_cons_self, rfl⟩
    · rw [Query.mem_seedKeys]
      rintro ⟨other, hother, hkey⟩
      rcases List.mem_cons.1 hother with rfl | hother
      · exact hne hkey
      · rw [List.mem_singleton.1 hother] at hkey
        exact Contact.key_ne_address target source hkey
    · rw [htarget]
      exact List.mem_cons_of_mem _ List.mem_cons_self
  · -- The target has another address than its key, which is asked about without a source.
    refine ⟨[origin, Contact.addressOfKey target], none, ?_, ?_, ?_⟩
    · exact Query.mem_seedKeys.2 ⟨origin, List.mem_cons_self, rfl⟩
    · rw [Query.mem_seedKeys]
      rintro ⟨other, hother, hkey⟩
      rcases List.mem_cons.1 hother with rfl | hother
      · exact hne hkey
      · rw [List.mem_singleton.1 hother] at hkey
        exact htarget hkey
    · exact List.mem_cons_of_mem _ List.mem_cons_self

/-- Whatever is asked of a graph about a relation, no contact asked about is suggested by the address
    that it is asked about by. -/
def Graph.SparesSeeds {σ : Type} (g : Graph σ) (s : σ) (relation : String) : Prop :=
  ∀ q : Query, q.relation = relation → ∀ suggestions : List Suggestion,
    ((g.related q).outcome s).1 = .ok suggestions → ∀ x ∈ suggestions, x.name ∉ q.contacts

/-! ## In memory -/

namespace Store

variable {s : Store} {account relation : String}

/-- All edges of an account with a relation are plain, but for those that no query counts. -/
def IsPlain (s : Store) (account relation : String) : Prop :=
  ∀ origin target b, s.bond? account origin target relation = some b →
    origin ≠ target → 0 ≤ b.weight → PlainEdge origin target

theorem mem_listed {q : Query} (hlimit : q.limit = 0) {target : String} {weight : Int} :
    (target, weight) ∈ s.listed account q ↔ s.Accumulates account q target weight := by
  rw [listed, if_pos hlimit, Ranking.sorted, List.mem_mergeSort, Keyed.mem_entries]
  exact find?_totals_sightings s account q target weight

theorem IsPlain.sparesSeeds (h : s.IsPlain account relation) :
    (Graph.inMemory account).SparesSeeds s relation := by
  intro q hq suggestions hanswer x hx
  rw [(Graph.ends_related_inMemory account q s).outcome.1, Except.ok.injEq] at hanswer
  have hstand := s.standFor_listed account q
  rw [← hanswer, hstand.named] at hx
  obtain ⟨e, he, rfl⟩ := List.mem_map.1 hx
  obtain ⟨htarget, ⟨seed, hseed, hcounted⟩, _⟩ := hstand.accumulates e he
  obtain ⟨b, hb⟩ := Option.isSome_iff_exists.1 hcounted
  obtain ⟨hbond, hcounts⟩ := Option.filter_eq_some_iff.1 hb
  rw [hq] at hbond
  have hweight : 0 ≤ b.weight :=
    (Int.natCast_nonneg q.lowerBound).trans (of_decide_eq_true hcounts).1
  have hne : seed ≠ e.1 := fun heq => htarget (heq ▸ hseed)
  exact (h seed e.1 b hbond hne hweight).not_mem_contacts hseed htarget

theorem isPlain_of_sparesSeeds (h : (Graph.inMemory account).SparesSeeds s relation) :
    s.IsPlain account relation := by
  intro origin target b hbond hne hweight
  by_contra hnot
  obtain ⟨contacts, source, horigin, htarget, haddress⟩ :=
    exists_contacts_of_not_plain hne hnot relation
  have hcounted : s.counted? account (.inclusive relation contacts source) origin target
      = some b :=
    Option.filter_eq_some_iff.2 ⟨hbond, decide_eq_true (Query.counts_inclusive hweight)⟩
  obtain ⟨weight, hlisted⟩ : ∃ weight,
      (target, weight) ∈ s.listed account (.inclusive relation contacts source) :=
    ⟨_, (mem_listed rfl).2 ⟨htarget, ⟨origin, horigin, by rw [hcounted]; rfl⟩, rfl⟩⟩
  have hanswer := (Graph.ends_related_inMemory account
    (.inclusive relation contacts source) s).outcome.1
  rw [related_eq_map] at hanswer
  exact h _ rfl _ hanswer _ (List.mem_map_of_mem hlisted) haddress

end Store

/-! ## In a database -/

namespace Sql.Rows

open Numeral

variable {rows : Rows} {account relation : String} {q : Query} {target : String}

/-- All rows of an account with a relation stand for plain edges, but for those that no query
    counts. -/
def IsPlain (rows : Rows) (account relation : String) : Prop :=
  ∀ origin target cells, rows.find? ⟨account, origin, target, relation⟩ = some cells →
    origin ≠ target → 0 ≤ cells.weight.value → PlainEdge origin target

/-- The weights of all rows that are not negative, added up, have a place in the database. -/
def Summable (rows : Rows) : Prop :=
  Word64.holds (rows.entries.map fun row => max 0 row.2.weight.value).sum = true

theorem isPlain_of_forall_mem (h : ∀ row ∈ rows.entries, PlainEdge row.1.origin row.1.target) :
    rows.IsPlain account relation :=
  fun _ _ _ hfound _ _ => h _ (Keyed.mem_entries.2 hfound)

theorem leading_sublist (rows : Rows) (account : String) (q : Query) (target : String) :
    (rows.leading account q target).Sublist rows.entries :=
  List.filter_sublist.trans List.filter_sublist

/-- The weights of the rows that lead to a contact add up to what all rows do, at most. -/
theorem sum_leadingAmounts_le (rows : Rows) (account : String) (q : Query) (target : String) :
    ((rows.leadingAmounts account q target).map Amount.value).sum
      ≤ (rows.entries.map fun row => max 0 row.2.weight.value).sum := by
  calc ((rows.leadingAmounts account q target).map Amount.value).sum
      ≤ ((rows.leading account q target).map fun row => max 0 row.2.weight.value).sum := by
        rw [leadingAmounts, List.map_map]
        exact List.sum_le_sum fun row _ => le_max_right 0 _
    _ ≤ (rows.entries.map fun row => max 0 row.2.weight.value).sum := by
        refine ((leading_sublist rows account q target).map _).sum_le_sum fun w hw => ?_
        obtain ⟨row, _, rfl⟩ := List.mem_map.1 hw
        exact le_max_left 0 _

theorem sum_leadingAmounts_nonneg (rows : Rows) (account : String) (q : Query)
    (target : String) : 0 ≤ ((rows.leadingAmounts account q target).map Amount.value).sum := by
  refine List.sum_nonneg fun w hw => ?_
  rw [leadingAmounts, List.map_map] at hw
  obtain ⟨row, hrow, rfl⟩ := List.mem_map.1 hw
  obtain ⟨_, hcounts, _⟩ := mem_leading.1 hrow
  exact (Int.natCast_nonneg q.lowerBound).trans (counts_iff.1 hcounts).2.2.2.2.1

/-- Amounts that have no sum are integers whose sum has no place in the database. -/
theorem isSome_sum? {amounts : List Amount}
    (h : Word64.holds (amounts.map Amount.value).sum = true) :
    (Amount.sum? amounts).isSome = true := by
  have htotal : amounts.foldr (fun a total => a.value + total) 0
      = (amounts.map Amount.value).sum := by
    rw [List.sum, List.foldr_map]
  unfold Amount.sum?
  dsimp only
  rw [htotal, if_pos h]
  split
  · rfl
  · rfl

theorem Summable.isSome_sum? (h : rows.Summable) (account : String) (q : Query)
    (target : String) : (Amount.sum? (rows.leadingAmounts account q target)).isSome = true := by
  refine Rows.isSome_sum? ?_
  have hle := sum_leadingAmounts_le rows account q target
  have hnonneg := sum_leadingAmounts_nonneg rows account q target
  rw [Summable, Amount.holds_iff] at h
  rw [Amount.holds_iff]
  omega

theorem mem_listed (hlimit : q.limit = 0) {weight : Int} :
    (target, weight) ∈ rows.listed account q
      ↔ rows.leading account q target ≠ []
        ∧ weight = (Amount.sum? (rows.leadingAmounts account q target)).getD 0 := by
  rw [listed, if_pos hlimit, Ranking.sorted, List.mem_mergeSort, mem_sums]

/-- Along plain edges no query suggests what it asks about. -/
theorem IsPlain.not_mem_contacts (h : rows.IsPlain account q.relation)
    {suggestions : List Suggestion} (hanswer : rows.related account q = .ok suggestions) :
    ∀ x ∈ suggestions, x.name ∉ q.contacts := by
  intro x hx
  have hstand := standFor_listed hanswer
  rw [hstand.named] at hx
  obtain ⟨e, he, rfl⟩ := List.mem_map.1 hx
  obtain ⟨htarget, hne, _⟩ := hstand.accumulates e he
  obtain ⟨row, hrow⟩ := List.exists_mem_of_ne_nil _ hne
  obtain ⟨hfound, hcounts, hleads⟩ := mem_leading.1 hrow
  obtain ⟨haccount, hseed, _, hrelation, hcount⟩ := counts_iff.1 hcounts
  have hkey : row.1 = ⟨account, row.1.origin, e.1, q.relation⟩ := by
    rw [← haccount, ← hleads, ← hrelation]
  rw [hkey] at hfound
  have hweight : 0 ≤ row.2.weight.value := (Int.natCast_nonneg q.lowerBound).trans hcount.1
  have hedge : row.1.origin ≠ e.1 := fun heq => htarget (heq ▸ hseed)
  exact (h row.1.origin e.1 row.2 hfound hedge hweight).not_mem_contacts hseed htarget

/-- Along any other edge some query does, if it is answered. -/
theorem exists_related_of_not_isPlain (hsums : rows.Summable)
    (h : ¬rows.IsPlain account relation) :
    ∃ q : Query, q.relation = relation ∧ ∃ suggestions,
      rows.related account q = .ok suggestions ∧ ∃ x ∈ suggestions, x.name ∈ q.contacts := by
  rw [IsPlain] at h
  push Not at h
  obtain ⟨origin, target, cells, hfound, hne, hweight, hnot⟩ := h
  obtain ⟨contacts, source, horigin, htarget, haddress⟩ :=
    exists_contacts_of_not_plain hne hnot relation
  have hrow : (⟨⟨account, origin, target, relation⟩, cells⟩ : RowKey × Cells)
      ∈ rows.leading account (.inclusive relation contacts source) target := by
    refine mem_leading.2 ⟨hfound, counts_iff.2 ⟨rfl, horigin, htarget, rfl, ?_⟩, rfl⟩
    exact Query.counts_inclusive hweight
  obtain ⟨weight, hlisted⟩ : ∃ weight,
      (target, weight) ∈ rows.listed account (.inclusive relation contacts source) :=
    ⟨_, (mem_listed rfl).2 ⟨List.ne_nil_of_mem hrow, rfl⟩⟩
  refine ⟨.inclusive relation contacts source, rfl, _, related_eq_ok_iff.2 ⟨rfl, fun target _ =>
    hsums.isSome_sum? account _ target, rfl⟩, _, List.mem_map_of_mem hlisted, haddress⟩

end Sql.Rows

namespace Connection

variable {l : Layout} {c : Connection} {account relation : String}

theorem sparesSeeds_of_isPlain (waits : Bool)
    (h : (c.share l account).IsPlain account relation) :
    (Graph.inDatabase l account waits).SparesSeeds c relation := by
  intro q hq suggestions hanswer
  exact Rows.IsPlain.not_mem_contacts (hq ▸ h) (related_share hanswer)

/-- A query that the rows of an account can be asked is answered on an orderly connection. -/
theorem Orderly.outcome_related (h : Orderly l c) (waits : Bool)
    (hok : ((ensureTable (l.tableOf account)).outcome c).1 = .ok ())
    (husable : IsUsableTable (l.tableOf account)) {q : Query} {suggestions : List Suggestion}
    (hanswer : (c.share l account).related account q = .ok suggestions) :
    (((Graph.inDatabase l account waits).related q).outcome c).1 = .ok suggestions := by
  rw [share, Rows.related_share] at hanswer
  have hends : (transact .query account (l.tableOf account) fun rows =>
      return (rows, ← rows.related account q)).Ends c (.ok suggestions) _ :=
    h.ends_transact hok husable rfl (by simp only [hanswer]; rfl)
  exact hends.outcome.1

theorem Orderly.isPlain_of_sparesSeeds (h : Orderly l c) (waits : Bool)
    (hok : ((ensureTable (l.tableOf account)).outcome c).1 = .ok ())
    (husable : IsUsableTable (l.tableOf account)) (hsums : (c.share l account).Summable)
    (hspares : (Graph.inDatabase l account waits).SparesSeeds c relation) :
    (c.share l account).IsPlain account relation := by
  by_contra hnot
  obtain ⟨q, hq, suggestions, hanswer, x, hx, hmem⟩ :=
    Rows.exists_related_of_not_isPlain hsums hnot
  exact hspares q hq suggestions (h.outcome_related waits hok husable hanswer) x hx hmem

end Connection

/-! ## Both -/

/-- In memory, whatever is stored, no query for a relation suggests what it asks about just if all
    edges with the relation are plain. In a database the same is true of the rows of an account,
    whatever graphs have grown by, as long as the account's table can be worked with and the weights
    in it can be added up. -/
theorem sparesSeeds_iff (l : Layout) (waits : Bool) (growths : List Growth)
    (account relation : String) :
    (∀ s : Store, (Graph.inMemory account).SparesSeeds s relation ↔ s.IsPlain account relation)
      ∧ let c := Graph.grown (Graph.inDatabase l · waits) {} growths
        ((Connection.ensureTable (l.tableOf account)).outcome c).1 = .ok () →
        IsUsableTable (l.tableOf account) → (c.share l account).Summable →
        ((Graph.inDatabase l account waits).SparesSeeds c relation
          ↔ (c.share l account).IsPlain account relation) := by
  refine ⟨fun s => ⟨s.isPlain_of_sparesSeeds, Store.IsPlain.sparesSeeds⟩, ?_⟩
  intro c hok husable hsums
  have horderly : Connection.Orderly l c := (Connection.orderly_empty l).grown waits growths
  exact ⟨horderly.isPlain_of_sparesSeeds waits hok husable hsums,
    Connection.sparesSeeds_of_isPlain waits⟩

/-- A message that an account has sent through no source. -/
def unsourced : List Growth :=
  [.mail Settings.defaultCliqueSize
    (.sent "x" { direct := ["a@example.com", "b@example.com"] } 7 none)]

/-- A database that no source has been named to spares all seeds. -/
theorem sparesSeeds_unsourced :
    let c := Graph.grown (Graph.inDatabase {} · true) {} unsourced
    ((Connection.ensureTable (({} : Layout).tableOf "x")).outcome c).1 = .ok ()
      ∧ (c.share {} "x").entries.length = 4
      ∧ (Graph.inDatabase {} "x" true).SparesSeeds c Channel.combinedName := by
  intro c
  have hok : ((Connection.ensureTable (({} : Layout).tableOf "x")).outcome c).1 = .ok () := by
    decide +kernel
  have hsums : (c.share {} "x").Summable := by
    unfold Rows.Summable
    decide +kernel
  have hplain : (c.share {} "x").IsPlain "x" Channel.combinedName :=
    Rows.isPlain_of_forall_mem (by decide +kernel)
  exact ⟨hok, by decide +kernel, ((sparesSeeds_iff {} true unsourced "x" Channel.combinedName).2 hok
    (isSoundTable_usual "x").toIsUsableTable hsums).2 hplain⟩

/-- A contact that a message has come to through a source is asked about without it, and
    suggested. -/
theorem not_spared_messageVia :
    ¬∀ (growths : List Growth) (account : String) (q : Query) (suggestions : List Suggestion),
      (((Graph.inMemory account).related q).outcome
          (Graph.grown Graph.inMemory {} growths)).1 = .ok suggestions →
        ∀ x ∈ suggestions, x.name ∉ q.contacts := by
  intro h
  have hanswer : (((Graph.inMemory "x").related
      { contacts := ["bob@example.com", "alice@example.com"] }).outcome
        (Graph.grown Graph.inMemory {}
          [Graph.messageVia "ds1" "bob@example.com" "alice@example.com"])).1
      = .ok [⟨"alice@example.com", 3⟩] := by
    decide +kernel
  exact absurd (h _ "x" _ _ hanswer) (by decide)

end Rapport
