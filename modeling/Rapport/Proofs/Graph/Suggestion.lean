import Rapport.Proofs.Graph.Growth
import Rapport.Proofs.Sql.Suggestion

set_option autoImplicit false

/-! # What the suggestions of a query stand for

Both kinds of graph add up by key, and name a contact by its address only when the list is complete.
A suggestion therefore stands for one key (`StandFor`): no key is listed twice, and each stands there
with all that is added up for it. Two keys of one address make two suggestions of one name, and
nothing else does: `standFor_related` says so of every answer that a graph gives. -/

namespace Rapport

/-! ## Lists of keys -/

/-- Suggestions that stand for some contacts, under their keys: none is listed twice, each has the
    weight that is added up for it, and each is named by its address. -/
structure StandFor (accumulates : String → Int → Prop) (entries : List (String × Int))
    (suggestions : List Suggestion) : Prop where
  distinct : (entries.map Prod.fst).Nodup
  accumulates : ∀ e ∈ entries, accumulates e.1 e.2
  named : suggestions = entries.map fun e => ⟨Contact.addressOfKey e.1, e.2⟩

namespace StandFor

variable {accumulates : String → Int → Prop} {entries : List (String × Int)}
  {suggestions : List Suggestion}

/-- Names are distinct just if no two of the keys that are listed have the same address. -/
theorem nodup_names_iff (h : StandFor accumulates entries suggestions) :
    (suggestions.map (·.name)).Nodup
      ↔ ∀ k ∈ entries.map Prod.fst, ∀ k' ∈ entries.map Prod.fst,
          Contact.addressOfKey k = Contact.addressOfKey k' → k = k' := by
  have hnames : suggestions.map (·.name)
      = (entries.map Prod.fst).map Contact.addressOfKey := by
    rw [h.named, List.map_map, List.map_map]
    rfl
  rw [hnames]
  constructor
  · intro hnodup k hk k' hk' heq
    exact List.inj_on_of_nodup_map hnodup hk hk' heq
  · exact fun hinj => h.distinct.map_on fun k hk k' hk' => hinj k hk k' hk'

/-- A limit leaves out some suggestions, and each that is left stands for what it stood for. -/
theorem of_limit {all : List (String × Int)} (hdistinct : (all.map Prod.fst).Nodup)
    (hall : ∀ e ∈ all, accumulates e.1 e.2) (limit : Nat)
    (hentries : entries = if limit = 0 then all else all.take limit)
    (hnamed : suggestions = entries.map Ranking.suggestion) :
    StandFor accumulates entries suggestions := by
  have hsublist : entries.Sublist all := by
    rw [hentries]
    split
    · exact List.Sublist.refl _
    · exact List.take_sublist _ _
  exact ⟨hdistinct.sublist (hsublist.map _), fun e he => hall e (hsublist.subset he), hnamed⟩

end StandFor

/-! ## In memory -/

namespace Store

/-- A contact is no seed, an edge leads to it that counts, and this is the sum of the weights of all
    these edges, one for each seed. -/
def Accumulates (s : Store) (account : String) (q : Query) (target : String) (weight : Int) :
    Prop :=
  target ∉ q.seedKeys
    ∧ (∃ seed ∈ q.seedKeys, (s.counted? account q seed target).isSome = true)
    ∧ weight = ∑ seed ∈ q.seedKeys, s.worth account q seed target

theorem standFor_listed (s : Store) (account : String) (q : Query) :
    StandFor (s.Accumulates account q) (s.listed account q) (s.related account q) := by
  refine .of_limit (Ranking.nodup_map_fst_sorted _) (fun e he => ?_) q.limit rfl
    (s.related_eq_map account q)
  rw [Ranking.sorted, List.mem_mergeSort] at he
  exact (find?_totals_sightings s account q e.1 e.2).1 (Keyed.mem_entries.1 he)

end Store

/-! ## In a database -/

namespace Sql.Rows

variable {rows : Rows} {account : String} {q : Query}

/-- A contact is no seed, a row leads to it that counts, and this is what the database makes of the
    weights of all these rows. -/
def Accumulates (rows : Rows) (account : String) (q : Query) (target : String) (weight : Int) :
    Prop :=
  target ∉ q.seedKeys ∧ rows.leading account q target ≠ []
    ∧ Amount.sum? (rows.leadingAmounts account q target) = some weight

theorem standFor_listed {suggestions : List Suggestion}
    (h : rows.related account q = .ok suggestions) :
    StandFor (rows.Accumulates account q) (rows.listed account q) suggestions := by
  obtain ⟨_, hsome, hnamed⟩ := related_eq_ok_iff.1 h
  have hordered : (Ranking.sorted (rows.sums account q)).Perm (rows.sums account q) :=
    List.mergeSort_perm _ _
  refine .of_limit ((hordered.map Prod.fst).nodup_iff.2 (nodup_map_fst_sums rows account q))
    (fun e he => ?_) q.limit rfl hnamed
  -- A row that leads to a contact has a sum, as the query would have been refused without it.
  obtain ⟨hne, hweight⟩ := mem_sums.1 (hordered.mem_iff.1 he)
  obtain ⟨total, htotal⟩ := Option.isSome_iff_exists.1 (hsome e.1 hne)
  refine ⟨fun hseed => hne (leading_eq_nil_of_mem hseed), hne, ?_⟩
  rw [hweight, htotal, Option.getD_some]

end Sql.Rows

namespace Connection

open Sql

/-- A query that is answered has been put to the rows of its account. -/
theorem related_share {l : Layout} {account : String} {waits : Bool} {q : Query} {c : Connection}
    {suggestions : List Suggestion}
    (h : (((Graph.inDatabase l account waits).related q).outcome c).1 = .ok suggestions) :
    (c.share l account).related account q = .ok suggestions := by
  rcases ends_transact_cases .query account (l.tableOf account)
      (fun rows => return (rows, ← rows.related account q)) c with
    ⟨e, hends⟩ | ⟨rows, rows', found, _, hrows, _, hf, hends⟩
  · exact nomatch hends.outcome.1.symm.trans h
  · obtain rfl : found = suggestions := Except.ok.inj (hends.outcome.1.symm.trans h)
    have hrelated : rows.related account q = .ok found := by
      cases hresult : rows.related account q with
      | error e =>
        rw [hresult] at hf
        cases hf
      | ok found' =>
        rw [hresult] at hf
        cases hf
        rfl
    have hsame : rows = (c.rowsAt (l.tableOf account)).getD .empty := by
      rcases rowsAt_ensured (l.tableOf account) c (l.tableOf account) with heq | ⟨hnone, heq⟩
      · rw [← heq, hrows, Option.getD_some]
      · rw [hrows, Option.some_inj] at heq
        rw [hnone, heq, Option.getD_none]
    rw [share, ← hsame, Rows.related_share, hrelated]

end Connection

/-! ## Both -/

namespace Graph

/-- Whatever a graph answers, in any state: each suggestion stands for another key, which is no seed
    and to which an edge leads that counts, and has all that is added up for this key, in memory
    their exact sum. The names are distinct just if no two of the keys have the same address. -/
theorem standFor_related (l : Layout) (waits : Bool) (account : String) (q : Query) :
    (∀ s : Store, ∃ suggestions entries,
        (((inMemory account).related q).outcome s).1 = .ok suggestions
          ∧ StandFor (s.Accumulates account q) entries suggestions
          ∧ ((suggestions.map (·.name)).Nodup
            ↔ ∀ k ∈ entries.map Prod.fst, ∀ k' ∈ entries.map Prod.fst,
                Contact.addressOfKey k = Contact.addressOfKey k' → k = k'))
      ∧ ∀ (c : Connection) (suggestions : List Suggestion),
          (((inDatabase l account waits).related q).outcome c).1 = .ok suggestions →
          ∃ entries, StandFor ((c.share l account).Accumulates account q) entries suggestions
            ∧ ((suggestions.map (·.name)).Nodup
              ↔ ∀ k ∈ entries.map Prod.fst, ∀ k' ∈ entries.map Prod.fst,
                  Contact.addressOfKey k = Contact.addressOfKey k' → k = k') := by
  constructor
  · intro s
    have hstand := s.standFor_listed account q
    exact ⟨_, _, (ends_related_inMemory account q s).outcome.1, hstand, hstand.nodup_names_iff⟩
  · intro c suggestions h
    have hstand := Sql.Rows.standFor_listed (Connection.related_share h)
    exact ⟨_, hstand, hstand.nodup_names_iff⟩

/-- What an account learns from a message that it receives through a data source: who has written
    it, and to whom. -/
def messageVia (source sender recipient : String) : Growth :=
  let own : Mail.OwnAddresses := { account := "x", primary := "me@example.com" }
  .mail Settings.defaultCliqueSize (.received own.identity
    { from_ := [sender], direct := [recipient] } 100 (some source))

theorem standFor_related_messageVia :
    let c := grown (inDatabase {} · true) {}
      [messageVia "ds1" "bob@example.com" "alice@example.com"]
    let q : Query := { contacts := ["bob@example.com"] }
    ∃ entries, StandFor ((c.share {} "x").Accumulates "x" q) entries [⟨"alice@example.com", 3⟩] := by
  intro c q
  have hanswer : (((inDatabase {} "x" true).related q).outcome c).1
      = .ok [⟨"alice@example.com", 3⟩] := by
    decide +kernel
  obtain ⟨entries, hstand, _⟩ := (standFor_related {} true "x" q).2 c _ hanswer
  exact ⟨entries, hstand⟩

/-- Messages from one contact to another, the second of which comes in through another source. -/
def twoSources : List Growth :=
  ["ds1", "ds2"].map fun source => messageVia source "bob@example.com" "alice@example.com"

/-- A contact that is known through two sources is suggested twice. -/
theorem not_nodup_names_related :
    ¬∀ (growths : List Growth) (account : String) (q : Query) (suggestions : List Suggestion),
      (((inMemory account).related q).outcome (grown inMemory {} growths)).1 = .ok suggestions →
        (suggestions.map (·.name)).Nodup := by
  intro h
  have hanswer : (((inMemory "x").related { contacts := ["bob@example.com"] }).outcome
      (grown inMemory {} twoSources)).1
        = .ok [⟨"alice@example.com", 3⟩, ⟨"alice@example.com", 3⟩] := by
    rw [(ends_related_inMemory "x" _ _).outcome.1, Store.related_eq_map, Store.listed]
    simp only [Ranking.sorted_eq_best]
    decide +kernel
  exact absurd (h twoSources "x" _ _ hanswer) (by decide)

end Graph

end Rapport
