import Mathlib.Data.Set.Basic
import Rapport.Proofs.Graph.Alike

set_option autoImplicit false

/-! # Tables whose names are not sound

Where the name of a table is not sound there is a run in memory and in a database that is not alike:
nothing can be stored under a name that is not usable, and in the table whose name is the one under
which rows are seen a second time, one stale edge makes all edges of the account go. Since tables
with sound names do better (`alike_of_isSoundTable`), `alike_iff` says just when all runs of some
accounts are alike. -/

namespace Rapport

open Sql Identifier Numeral

variable {l : Layout} {waits : Bool} {run : List (String × Request)}

/-! ## Trials -/

/-- A tie without weight, from one contact to another only. -/
def trial (timestamp : Int) : Reinforcement where
  channel := ⟨"to", 0⟩
  timestamp := timestamp
  directed := true

theorem trial_name_ne (timestamp : Int) :
    (trial timestamp).channel.name ≠ Channel.combinedName := by
  show "to" ≠ Channel.combinedName
  decide

/-- No edge of an account has any weight. -/
def IsWeightless (account : String) (s : Store) : Prop :=
  ∀ origin target relation b, s.bond? account origin target relation = some b → b.weight = 0

theorem bond?_trial (s : Store) (account : String) (a b : Contact) (timestamp : Int)
    (origin target relation : String) :
    (s.reinforce account a b (trial timestamp)).bond? account origin target relation
      = if (origin = a.key ∧ target = b.key) ∧ (relation = "to" ∨ relation = Channel.combinedName)
        then some (((s.bond? account origin target relation).getD {}).reinforced 0 timestamp)
        else s.bond? account origin target relation := by
  rw [s.bond?_reinforce account a b (trial_name_ne timestamp)]
  simp only [Reinforcement.mem_edges, Reinforcement.mem_relations, trial, Reinforcement.amount,
    true_and, Int.mul_zero, Bool.true_eq_false, false_and, or_false]

theorem isWeightless_trial {account : String} {s : Store} (h : IsWeightless account s)
    (a b : Contact) (timestamp : Int) :
    IsWeightless account (s.reinforce account a b (trial timestamp)) := by
  intro origin target relation bond hbond
  rw [bond?_trial] at hbond
  split at hbond
  · rw [Option.some.injEq] at hbond
    rw [← hbond, Bond.reinforced, add_zero]
    cases hold : s.bond? account origin target relation with
    | none => rfl
    | some old => exact h origin target relation old hold
  · exact h _ _ _ _ hbond

/-- Where there is no weight yet, a trial fits. -/
theorem fits_trial {account : String} {s : Store} (h : IsWeightless account s) (a b : Contact)
    {timestamp : Int} (htime : Word64.holds timestamp = true) :
    (Request.reinforce a b (trial timestamp)).Fits account s := by
  have hlight : ∀ {s' : Store}, IsWeightless account s' →
      ∀ origin target relation bond, s'.bond? account origin target relation = some bond →
        Word64.holds bond.weight = true := by
    intro s' hs' origin target relation bond hbond
    rw [hs' _ _ _ _ hbond]
    decide
  have hties : (Request.reinforce a b (trial timestamp)).ties = [⟨a, b, trial timestamp⟩] := by
    rw [Request.ties, if_neg (by simp [trial])]
  show (∀ t ∈ (Request.reinforce a b (trial timestamp)).ties, _) ∧ _
  rw [hties]
  refine ⟨fun t ht => ?_, fun ties hprefix => ?_⟩
  · rw [List.mem_singleton] at ht
    subst ht
    refine ⟨?_, htime⟩
    show Word64.holds (1 * 0) = true
    decide
  · rcases List.prefix_cons_iff.1 hprefix with rfl | ⟨rest, rfl, hrest⟩
    · exact hlight h
    · rw [List.prefix_nil.1 hrest]
      exact hlight (isWeightless_trial h a b timestamp)

variable {account : String} {a b : Contact}

theorem admits_trial {timestamp : Int} (htime : Word64.holds timestamp = true)
    (hlight : IsWeightless account (storeAfter run))
    (hcreatable : ((Connection.ensureTable (l.tableOf account)).outcome
      (connectionAfter l waits run)).1 = .ok ()) :
    Admits l waits run (account, .reinforce a b (trial timestamp)) where
  typed c hc := by
    rw [Request.channel?, Option.mem_some_iff] at hc
    exact hc ▸ trial_name_ne timestamp
  unsourced _ := by simp
  fits := fits_trial hlight a b htime
  creatable _ := hcreatable

/-- What cannot be stored under a name is refused. -/
theorem transact_reinforce_of_not_isUsableTable {db : Database} {table : String}
    (hcreate : ({} : Database).create (edgeTable table) = (db, true))
    (h : ¬IsUsableTable table) {α : Type} (f : Rows → Except Refusal (Rows × α)) :
    db.transact .reinforce table f = .error .refused := by
  rw [Database.transact]
  cases hrows : db.rows? (denoted table) with
  | none => rfl
  | some rows =>
    have hstanding : standing table ≠ .free := by
      intro hfree
      refine h ⟨hfree, ?_⟩
      rcases Database.create_cases hcreate with ⟨hfound, _⟩ | ⟨_, _, _, rfl⟩ | ⟨_, _, hown, _⟩
      · exact absurd hfound (by simp [Database.hasTable, Keyed.contains])
      · exact absurd hrows (by simp [Database.rows?])
      · exact hown
    exact if_neg fun hallows => hstanding (Standing.allows_reinforce_iff.1 hallows)

/-- If a first trial is alike, the table of the account is usable. -/
theorem isUsableTable_of_stepsAlike (hcreatable : Creatable (l.tableOf account))
    {timestamp : Int}
    (h : StepsAlike l waits [] (account, .reinforce a b (trial timestamp))) :
    IsUsableTable (l.tableOf account) := by
  by_contra hnot
  -- The table is made ready, but the first statement is refused, or it finds no table.
  obtain ⟨hname, db, hcreate⟩ :=
    Connection.create_of_ensureTable (c := {}) (by simp) rfl rfl rfl hcreatable
  have hensure := Connection.ends_ensureTable (c := {}) (by simp) rfl rfl rfl hname hcreate
  have htransact := Connection.ends_transact_refused account hensure rfl
    (transact_reinforce_of_not_isUsableTable hcreate hnot fun rows =>
      return (← rows.reinforce account a b (trial timestamp), ()))
  have hlight : ¬(trial timestamp).multiplier < 1 := by simp [trial]
  have hends := Graph.ends_serve_reinforce waits hlight htransact
  have hresult := h.result
  rw [(Graph.ends_serve_inMemory account _ _).outcome.1, Request.answer, Graph.check,
    if_neg hlight] at hresult
  rw [show connectionAfter l waits [] = {} from rfl, hends.outcome.1] at hresult
  exact hresult

theorem storeAfter_append_trial (run : List (String × Request)) (timestamp : Int) :
    storeAfter (run ++ [(account, .reinforce a b (trial timestamp))])
      = (storeAfter run).reinforce account a b (trial timestamp) := by
  rw [storeAfter_append]
  show (storeAfter run).tieAll account (Request.reinforce a b (trial timestamp)).ties = _
  rw [Request.ties, if_neg (by simp [trial])]
  rfl

/-- A trial under a usable name is stored, whether or not the name is sound. -/
theorem Mirrors.exists_trial {db : Database} (a b : Contact) {timestamp : Int}
    (h : Mirrors l (storeAfter run) (connectionAfter l waits run) db)
    (hlight : IsWeightless account (storeAfter run)) (htime : Word64.holds timestamp = true)
    (hok : ((Connection.ensureTable (l.tableOf account)).outcome
      (connectionAfter l waits run)).1 = .ok ())
    (husable : IsUsableTable (l.tableOf account)) :
    ∃ db', Mirrors l (storeAfter (run ++ [(account, .reinforce a b (trial timestamp))]))
        (connectionAfter l waits (run ++ [(account, .reinforce a b (trial timestamp))])) db'
      ∧ l.tableOf account ∈ (connectionAfter l waits
          (run ++ [(account, .reinforce a b (trial timestamp))])).ready := by
  have hamount : Word64.holds (trial timestamp).amount = true := by
    show Word64.holds (1 * 0) = true
    decide
  obtain ⟨c', db', hends, hmirrors, hready⟩ := h.exists_reinforce hok husable (a := a) (b := b)
    (by simp [trial]) (trial_name_ne timestamp) hamount htime
    fun origin target relation bond hbond => by
      rw [isWeightless_trial hlight a b timestamp _ _ _ _ hbond]
      decide
  have hserve : ((Graph.inDatabase l account waits).serve (.reinforce a b (trial timestamp))).Ends
      (connectionAfter l waits run) (.ok .done) c' :=
    hends.bind (Action.Ends.pure Answer.done c')
  rw [connectionAfter_append hserve, storeAfter_append_trial]
  exact ⟨db', hmirrors, hready⟩

/-- Two trials, one of them older than the other. -/
def twoTrials (account : String) : List (String × Request) :=
  [] ++ [(account, .reinforce ⟨"a", none⟩ ⟨"b", none⟩ (trial 1))]
    ++ [(account, .reinforce ⟨"a", none⟩ ⟨"c", none⟩ (trial 3))]

theorem bond?_twoTrials_older (account : String) :
    (storeAfter (twoTrials account)).bond? account "a" "b" Channel.combinedName = some ⟨0, 1⟩ := by
  rw [twoTrials, storeAfter_append_trial, storeAfter_append_trial, bond?_trial, bond?_trial]
  rfl

theorem bond?_twoTrials_newer (account : String) {relation : String}
    (h : relation = "to" ∨ relation = Channel.combinedName) :
    (storeAfter (twoTrials account)).bond? account "a" "c" relation = some ⟨0, 3⟩ := by
  rw [twoTrials, storeAfter_append_trial, storeAfter_append_trial, bond?_trial, bond?_trial,
    if_pos ⟨⟨rfl, rfl⟩, h⟩, if_neg fun hb => absurd hb.1.2 (by decide)]
  rfl

/-- The newer of two trials is not stale when the older one is. -/
theorem bond?_remove_twoTrials (account : String) :
    ((storeAfter (twoTrials account)).remove account (Removal.stale 2).takes).bond?
      account "a" "c" "to" = some ⟨0, 3⟩ := by
  rw [Store.bond?_remove, if_neg, bond?_twoTrials_newer account (Or.inl rfl)]
  rintro ⟨_, htakes⟩
  have hcombined := bond?_twoTrials_newer account (Or.inr rfl)
  rw [Store.bond?_eq] at hcombined
  cases hrec : (storeAfter (twoTrials account)).record? account "a" "c" with
  | none =>
    rw [hrec] at hcombined
    exact absurd hcombined (by simp)
  | some bonds =>
    rw [hrec, Option.bind_some] at hcombined
    rw [hrec, Option.any_some, Removal.takes, hcombined] at htakes
    exact absurd htakes (by decide)

theorem isWeightless_empty (account : String) : IsWeightless account (storeAfter []) := by
  intro origin target relation b hb
  rw [show storeAfter [] = {} from rfl, Store.bond?_empty] at hb
  exact absurd hb (by simp)

theorem admissible_trial (hcreatable : Creatable (l.tableOf account)) :
    Admissible l waits [(account, .reinforce a b (trial 1))] :=
  everyStep_append.2 ⟨everyStep_nil _,
    admits_trial (by decide) (isWeightless_empty account) hcreatable⟩

/-- Two trials are admissible, and stored under a usable name. -/
theorem exists_mirrors_twoTrials (waits : Bool) (hcreatable : Creatable (l.tableOf account))
    (husable : IsUsableTable (l.tableOf account)) :
    Admissible l waits (twoTrials account)
      ∧ ∃ db, Mirrors l (storeAfter (twoTrials account))
          (connectionAfter l waits (twoTrials account)) db
        ∧ l.tableOf account ∈ (connectionAfter l waits (twoTrials account)).ready := by
  have hempty := isWeightless_empty account
  have hmirrors : Mirrors l (storeAfter []) (connectionAfter l waits []) {} := mirrors_empty l
  obtain ⟨db₁, h₁, hready₁⟩ := hmirrors.exists_trial ⟨"a", none⟩ ⟨"b", none⟩ hempty
    (show Word64.holds 1 = true by decide) hcreatable husable
  have hok₁ := (Connection.ends_ensureTable_of_mem hready₁).outcome.1
  have hlight₁ := isWeightless_trial hempty ⟨"a", none⟩ ⟨"b", none⟩ 1
  rw [← storeAfter_append_trial] at hlight₁
  exact ⟨everyStep_append.2 ⟨admissible_trial hcreatable, admits_trial (by decide) hlight₁ hok₁⟩,
    h₁.exists_trial _ _ hlight₁ (by decide) hok₁ husable⟩

/-! ## Shadowed tables -/

/-- In a shadowed table a removal of stale edges empties the graph of the account, as soon as one of
    its edges is stale. -/
theorem perm_rows_of_isShadowed {db : Database}
    (h : Mirrors l (storeAfter run) (connectionAfter l waits run) db)
    (hok : ((Connection.ensureTable (l.tableOf account)).outcome
      (connectionAfter l waits run)).1 = .ok ())
    (husable : IsUsableTable (l.tableOf account))
    (hshadowed : isShadowed (l.tableOf account) = true) {cutoff : Int}
    (hcutoff : Word64.holds cutoff = true) {origin target : String} {bond : Bond}
    (hbond : (storeAfter run).bond? account origin target Channel.combinedName = some bond)
    (hstale : bond.updatedAt ≤ cutoff) :
    (connectionAfter l waits (run ++ [(account, .remove (.stale cutoff))])).rows.Perm
      ((storeAfter run).remove account fun _ _ _ => true).rows := by
  obtain ⟨count, c', db', hends, _, hmirrors, _⟩ := h.exists_transact (.remove (.stale cutoff))
    (fun rows => rows.remove account (.stale cutoff) (isShadowed (l.tableOf account)))
    ((storeAfter run).remove account fun _ _ _ => true) (fun _ => True) hok husable.foreign
    (by rw [husable.free]; rfl)
    (fun rows hrows => by
      obtain ⟨rows', n, hremove, hshows, hothers⟩ :=
        Rows.exists_remove_shadowed hrows hcutoff hbond hstale
      exact ⟨rows', n, by rw [hshadowed, hremove], trivial, hshows, hothers⟩)
    (fun account' haccount origin target relation => by
      rw [Store.bond?_remove, if_neg fun htaken => haccount htaken.1])
  have hremove : ((Graph.inDatabase l account waits).remove (.stale cutoff)).Ends
      (connectionAfter l waits run) (.ok ()) c' :=
    hends.bind (Action.Ends.note _ c')
  have hserve : ((Graph.inDatabase l account waits).serve (.remove (.stale cutoff))).Ends
      (connectionAfter l waits run) (.ok .done) c' :=
    hremove.bind (Action.Ends.pure Answer.done c')
  rw [connectionAfter_append hserve]
  exact hmirrors.perm_rows

/-- In a shadowed table the run of two trials and a removal of stale edges is not alike. -/
theorem not_alike_of_isShadowed (waits : Bool) (hcreatable : Creatable (l.tableOf account))
    (husable : IsUsableTable (l.tableOf account))
    (hshadowed : isShadowed (l.tableOf account) = true) :
    Admissible l waits (twoTrials account ++ [(account, .remove (.stale 2))])
      ∧ ¬Alike l waits (twoTrials account ++ [(account, .remove (.stale 2))]) := by
  obtain ⟨hadmissible, db, hmirrors, hready⟩ := exists_mirrors_twoTrials waits hcreatable husable
  have hok := (Connection.ends_ensureTable_of_mem hready).outcome.1
  have hstale : Admits l waits (twoTrials account) (account, .remove (.stale 2)) := by
    refine ⟨fun _ hc => absurd hc (by simp [Request.channel?]), by simp, ?_, fun _ => hok⟩
    show Word64.holds 2 = true
    decide
  refine ⟨everyStep_append.2 ⟨hadmissible, hstale⟩, fun halike => ?_⟩
  have hgone := perm_rows_of_isShadowed hmirrors hok husable hshadowed
    (show Word64.holds 2 = true by decide) (bond?_twoTrials_older account) (by decide)
  -- the newer trial is still in the store, but not among the rows
  have hrow : (⟨account, "a", "c", "to"⟩, Cells.ofBond ⟨0, 3⟩)
      ∈ (storeAfter (twoTrials account ++ [(account, .remove (.stale 2))])).rows := by
    rw [storeAfter_append, Store.mem_rows]
    exact congrArg (Option.map Cells.ofBond) (bond?_remove_twoTrials account)
  have hmem := (hgone.symm.trans (everyStep_append.1 halike).2.rows).mem_iff.2 hrow
  rw [Store.mem_rows, Store.bond?_remove] at hmem
  cases hrec : (storeAfter (twoTrials account)).record? account "a" "c" with
  | none => simp [Store.bond?_eq, hrec] at hmem
  | some bonds => simp [hrec] at hmem

/-! ## Accounts whose runs are alike -/

/-- Where all runs of an account are alike, its table has a sound name. -/
theorem isSoundTable_of_alike (hcreatable : Creatable (l.tableOf account))
    (h : ∀ run, (∀ q ∈ run, q.1 = account) → Admissible l waits run → Alike l waits run) :
    IsSoundTable (l.tableOf account) := by
  have hone : Admissible l waits [(account, .reinforce ⟨"a", none⟩ ⟨"b", none⟩ (trial 1))] :=
    admissible_trial hcreatable
  have husable : IsUsableTable (l.tableOf account) :=
    isUsableTable_of_stepsAlike hcreatable (everyStep_append.1 (h _ (by simp) hone)).2
  refine ⟨husable, ?_⟩
  by_contra hshadowed
  rw [Bool.not_eq_false] at hshadowed
  obtain ⟨hadmissible, hnot⟩ := not_alike_of_isShadowed waits hcreatable husable hshadowed
  exact hnot (h _ (by simp [twoTrials]) hadmissible)

/-- All runs of some accounts are alike, just if the tables of these accounts have sound names, as
    far as they can be created. -/
theorem alike_iff (l : Layout) (waits : Bool) (accounts : Set String) :
    (∀ run, (∀ q ∈ run, q.1 ∈ accounts) → Admissible l waits run → Alike l waits run)
      ↔ ∀ account ∈ accounts, Creatable (l.tableOf account) → IsSoundTable (l.tableOf account) := by
  constructor
  · intro h account haccount hcreatable
    exact isSoundTable_of_alike hcreatable fun run hrun =>
      h run fun q hq => by
        rw [hrun q hq]
        exact haccount
  · intro h run hrun hadmissible
    exact (alike_of_isSoundTable hadmissible fun q hq => h q.1 (hrun q hq)).1

/-- One table for all accounts, under the name under which rows are seen a second time. -/
def shadowedLayout : Layout := ⟨.combined, "combined_edge"⟩

theorem not_alike_shadowedLayout :
    ¬∀ (l : Layout) (waits : Bool) (run : List (String × Request)),
      Admissible l waits run → Alike l waits run := by
  intro h
  have hcreatable : Creatable (shadowedLayout.tableOf "x") :=
    creatable_of_create (by decide) (by decide +kernel)
  have husable : IsUsableTable (shadowedLayout.tableOf "x") := ⟨by decide, by decide⟩
  obtain ⟨hadmissible, hnot⟩ := not_alike_of_isShadowed true hcreatable husable (by decide)
  exact hnot (h _ _ _ hadmissible)

end Rapport
