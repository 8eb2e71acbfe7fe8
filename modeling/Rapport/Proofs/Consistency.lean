import Rapport.Proofs.Schedule

set_option autoImplicit false

/-! # What every reachable store has in common

The combined relation of an edge sums up the relations of its channels: `Bonds.AddUp`. A store in
which every edge adds up, and in which no contact is kept without edges, is `Store.Consistent`. Each
step that calls take keeps a store consistent, whatever has come before, so every store that is
reached by a schedule of calls is, also while some of them are only half done
(`Store.consistent_interleaved`). -/

namespace Rapport

/-! ## Sums of bonds -/

/-- Two bonds as one. -/
def Bond.join (b c : Bond) : Bond := ⟨b.weight + c.weight, max b.updatedAt c.updatedAt⟩

theorem Bond.reinforced_join (b c : Bond) (amount timestamp : Int) :
    (b.reinforced amount timestamp).join c = (b.join c).reinforced amount timestamp := by
  simp only [join, reinforced, mk.injEq]
  omega

theorem Bond.join_reinforced (b c : Bond) (amount timestamp : Int) :
    b.join (c.reinforced amount timestamp) = (b.join c).reinforced amount timestamp := by
  simp only [join, reinforced, mk.injEq]
  omega

namespace Bonds

/-- The bonds that a list of relations holds for channels other than the combined one. -/
def typedIn (es : List (String × Bond)) : List Bond :=
  (es.filter (·.1 ≠ Channel.combinedName)).map (·.2)

/-- The bonds of an edge for channels other than the combined one. -/
def typed (bonds : Bonds) : List Bond := typedIn bonds.entries

/-- Bonds as one; none make a bond without weight. -/
def total (bs : List Bond) : Bond := bs.foldr Bond.join {}

theorem typedIn_cons (e : String × Bond) (es : List (String × Bond)) :
    typedIn (e :: es)
      = if e.1 = Channel.combinedName then typedIn es else e.2 :: typedIn es := by
  by_cases h : e.1 = Channel.combinedName
  · simp [typedIn, h]
  · simp [typedIn, h]

theorem typed_upsert_combined (bonds : Bonds) (f : Option Bond → Bond) :
    typed (bonds.upsert Channel.combinedName f) = bonds.typed := by
  show typedIn (Keyed.upsertIn _ f bonds.entries) = typedIn bonds.entries
  induction bonds.entries with
  | nil => rfl
  | cons e rest ih =>
    obtain ⟨k, b⟩ := e
    by_cases hk : k = Channel.combinedName
    · simp [Keyed.upsertIn, typedIn_cons, hk]
    · simp [Keyed.upsertIn, typedIn_cons, hk, ih]

/-- Reinforcing one channel reinforces the total. -/
theorem total_typed_upsert {k : String} (hk : k ≠ Channel.combinedName) (bonds : Bonds)
    (amount timestamp : Int) :
    total (typed (bonds.upsert k fun b => (b.getD {}).reinforced amount timestamp))
      = (total bonds.typed).reinforced amount timestamp := by
  show total (typedIn (Keyed.upsertIn k _ bonds.entries))
    = (total (typedIn bonds.entries)).reinforced amount timestamp
  induction bonds.entries with
  | nil =>
    rw [Keyed.upsertIn, typedIn_cons, if_neg hk]
    exact Bond.reinforced_join {} {} amount timestamp
  | cons e rest ih =>
    obtain ⟨k', b⟩ := e
    by_cases hkk' : k' = k
    · subst hkk'
      rw [Keyed.upsertIn, if_pos rfl, typedIn_cons, typedIn_cons, if_neg hk, if_neg hk]
      exact Bond.reinforced_join b _ amount timestamp
    · rw [Keyed.upsertIn, if_neg hkk', typedIn_cons, typedIn_cons]
      by_cases hk' : k' = Channel.combinedName
      · rw [if_pos hk', if_pos hk', ih]
      · rw [if_neg hk', if_neg hk']
        show Bond.join b (total _) = _
        rw [ih]
        exact Bond.join_reinforced b _ amount timestamp

theorem mem_typed {bonds : Bonds} {b : Bond} :
    b ∈ bonds.typed ↔ ∃ k, k ≠ Channel.combinedName ∧ bonds.find? k = some b := by
  simp only [typed, typedIn, List.mem_map, List.mem_filter, decide_eq_true_eq]
  constructor
  · rintro ⟨⟨k, b⟩, ⟨hmem, hk⟩, rfl⟩
    exact ⟨k, hk, Keyed.mem_entries.1 hmem⟩
  · rintro ⟨k, hk, hfind⟩
    exact ⟨(k, b), ⟨Keyed.mem_entries.2 hfind, hk⟩, rfl⟩

theorem weight_total (bs : List Bond) : (total bs).weight = (bs.map (·.weight)).sum := by
  induction bs with
  | nil => rfl
  | cons b rest ih => rw [List.map_cons, List.sum_cons, ← ih]; rfl

theorem updatedAt_total {bs : List Bond} (hbs : bs ≠ []) (hnonneg : ∀ b ∈ bs, 0 ≤ b.updatedAt) :
    (bs.map (·.updatedAt)).max? = some (total bs).updatedAt := by
  induction bs with
  | nil => exact absurd rfl hbs
  | cons b rest ih =>
    have hb := hnonneg b List.mem_cons_self
    cases rest with
    | nil =>
      exact congrArg some (Int.max_eq_left hb).symm
    | cons b' rest =>
      have hrest := ih (List.cons_ne_nil b' rest) fun c hc => hnonneg c (List.mem_cons_of_mem _ hc)
      rw [List.map_cons, List.max?_cons, hrest]
      rfl

/-- No relation of an edge has a negative time. -/
def Timed (bonds : Bonds) : Prop :=
  ∀ relation b, bonds.find? relation = some b → 0 ≤ b.updatedAt

/-- The relations of an edge add up: there is one for some channel, no time is negative, and the
    combined relation has the weight of all channels together and the time of the latest. -/
structure AddUp (bonds : Bonds) : Prop where
  typed_ne_nil : bonds.typed ≠ []
  timed : bonds.Timed
  combined : ∃ c, bonds.find? Channel.combinedName = some c
    ∧ c.weight = (bonds.typed.map (·.weight)).sum
    ∧ (bonds.typed.map (·.updatedAt)).max? = some c.updatedAt

theorem addUp_iff {bonds : Bonds} :
    bonds.AddUp ↔ bonds.typed ≠ [] ∧ bonds.Timed
      ∧ bonds.find? Channel.combinedName = some (total bonds.typed) := by
  have hmax : bonds.typed ≠ [] → bonds.Timed →
      (bonds.typed.map (·.updatedAt)).max? = some (total bonds.typed).updatedAt := by
    intro hne htimed
    refine updatedAt_total hne fun b hb => ?_
    obtain ⟨k, _, hfind⟩ := mem_typed.1 hb
    exact htimed k b hfind
  constructor
  · rintro ⟨hne, htimed, c, hc, hweight, htime⟩
    rw [hmax hne htimed, Option.some_inj] at htime
    have htotal : c = total bonds.typed := by
      rw [Bond.mk.injEq c.weight c.updatedAt, htime, weight_total]
      exact ⟨hweight, rfl⟩
    exact ⟨hne, htimed, htotal ▸ hc⟩
  · rintro ⟨hne, htimed, hc⟩
    exact ⟨hne, htimed, _, hc, weight_total _, hmax hne htimed⟩

theorem timed_of_empty_or {bonds : Bonds} (h : bonds = .empty ∨ bonds.AddUp) : bonds.Timed := by
  rcases h with rfl | h
  · intro relation b hb
    rw [Keyed.find?_empty] at hb
    exact absurd hb (by simp)
  · exact h.timed

/-! ## Writing an edge -/

theorem Timed.upsert {bonds : Bonds} (h : bonds.Timed) (k : String) (amount timestamp : Int) :
    Timed (bonds.upsert k fun b => (b.getD {}).reinforced amount timestamp) := by
  intro relation b hb
  rw [Keyed.find?_upsert] at hb
  split at hb
  · have hold : 0 ≤ ((bonds.find? k).getD {}).updatedAt := by
      cases hfind : bonds.find? k with
      | none => exact Int.le_refl 0
      | some b' => exact h k b' hfind
    rw [← Option.some_inj.1 hb]
    exact Int.le_trans hold (Int.le_max_left _ _)
  · exact h relation b hb

/-- Creating relations is the same as reinforcing them by nothing. -/
theorem foldl_ensure_eq {bonds : Bonds} (h : bonds.Timed) (relations : List String) :
    relations.foldl (fun m r => m.upsert r fun b => b.getD {}) bonds
      = relations.foldl (fun m r => m.upsert r fun b => (b.getD {}).reinforced 0 0) bonds := by
  induction relations generalizing bonds with
  | nil => rfl
  | cons k rest ih =>
    have hold : (bonds.find? k).getD {} = ((bonds.find? k).getD {}).reinforced 0 0 := by
      cases hfind : bonds.find? k with
      | none => rfl
      | some b =>
        simp only [Option.getD_some, Bond.reinforced, Int.add_zero, Int.max_eq_left (h k b hfind)]
    have hupsert : (bonds.upsert k fun b => b.getD {})
        = bonds.upsert k fun b => (b.getD {}).reinforced 0 0 := Keyed.upsert_congr hold
    rw [List.foldl_cons, List.foldl_cons, hupsert]
    exact ih (h.upsert k 0 0)

/-- Reinforcing a channel along with the combined relation makes an edge add up, and keeps it so. -/
theorem addUp_foldl_reinforced {bonds : Bonds} (h : bonds = .empty ∨ bonds.AddUp) {k : String}
    (hk : k ≠ Channel.combinedName) (amount timestamp : Int) :
    AddUp ([k, Channel.combinedName].foldl
      (fun m r => m.upsert r fun b => (b.getD {}).reinforced amount timestamp) bonds) := by
  have hsum : (bonds.find? Channel.combinedName).getD {} = total bonds.typed := by
    rcases h with rfl | h
    · rfl
    · rw [(addUp_iff.1 h).2.2, Option.getD_some]
  simp only [List.foldl_cons, List.foldl_nil]
  refine addUp_iff.2 ⟨?_, ((timed_of_empty_or h).upsert _ _ _).upsert _ _ _, ?_⟩
  · rw [typed_upsert_combined]
    exact List.ne_nil_of_mem (mem_typed.2 ⟨k, hk, (Keyed.find?_upsert ..).trans (if_pos rfl)⟩)
  · rw [Keyed.find?_upsert, if_pos rfl, Keyed.find?_upsert, if_neg (Ne.symm hk),
      typed_upsert_combined, total_typed_upsert hk, hsum]

end Bonds

/-! ## Consistent stores -/

namespace Store

/-- Every edge adds up, and every contact that is kept has an edge. -/
structure Consistent (s : Store) : Prop where
  isEmpty_eq_false : ∀ node edges, s.adjacency.find? node = some edges → edges.isEmpty = false
  addUp : ∀ account origin target bonds,
    s.record? account origin target = some bonds → bonds.AddUp

theorem consistent_empty : Consistent {} where
  isEmpty_eq_false _ _ h := by
    rw [show ({} : Store).adjacency = .empty from rfl, Keyed.find?_empty] at h
    exact absurd h (by simp)
  addUp _ _ _ _ h := by
    rw [record?_empty] at h
    exact absurd h (by simp)

/-- The relations of an edge, or none where there is no edge. -/
theorem Consistent.getD_record? {s : Store} (hs : s.Consistent) (account origin target : String) :
    (s.record? account origin target).getD .empty = .empty
      ∨ Bonds.AddUp ((s.record? account origin target).getD .empty) := by
  cases hrecord : s.record? account origin target with
  | none => exact Or.inl rfl
  | some bonds => exact Or.inr (hs.addUp account origin target bonds hrecord)

/-- Writing an edge keeps a store consistent if it makes the edge add up. -/
theorem Consistent.alterEdge {s : Store} (hs : s.Consistent) (account origin target : String)
    {f : Bonds → Bonds} (hf : ∀ bonds : Bonds, bonds = .empty ∨ bonds.AddUp → (f bonds).AddUp) :
    (s.alterEdge account origin target f).Consistent where
  isEmpty_eq_false node edges h := by
    rw [Store.alterEdge, Keyed.find?_upsert] at h
    split at h
    · rw [← Option.some_inj.1 h]
      refine Bool.eq_false_iff.2 fun hempty => ?_
      have hnone := Keyed.find?_eq_none_of_isEmpty hempty target
      rw [Keyed.find?_upsert, if_pos rfl] at hnone
      exact absurd hnone (by simp)
    · exact hs.isEmpty_eq_false node edges h
  addUp account' origin' target' bonds h := by
    rw [record?_alterEdge] at h
    split at h
    · rw [← Option.some_inj.1 h]
      exact hf _ (hs.getD_record? account origin target)
    · exact hs.addUp account' origin' target' bonds h

theorem Consistent.remove {s : Store} (hs : s.Consistent) (account : String)
    (p : String → String → Bonds → Bool) : (s.remove account p).Consistent where
  isEmpty_eq_false node edges h := by
    rw [Store.remove, Keyed.find?_filterMap] at h
    obtain ⟨edges', hedges', h⟩ := Option.bind_eq_some_iff.1 h
    split at h
    · by_cases hkept : (edges'.filter fun target bonds => !p node.2 target bonds).isEmpty = true
      · rw [if_pos hkept] at h
        exact absurd h (by simp)
      · rw [if_neg hkept] at h
        rw [← Option.some_inj.1 h, Bool.eq_false_iff]
        exact hkept
    · rw [← Option.some_inj.1 h]
      exact hs.isEmpty_eq_false node edges' hedges'
  addUp account' origin' target' bonds h := by
    rw [record?_remove, Option.filter_eq_some_iff] at h
    exact hs.addUp account' origin' target' bonds h.1

/-- Whether the relations that a step writes are a channel's and the combined one. -/
def Step.IsTyped : Step → Prop
  | .ensure _ _ _ relations | .increment _ _ _ relations _ _ =>
    ∃ k, k ≠ Channel.combinedName ∧ relations = [k, Channel.combinedName]
  | .remove _ _ => True

/-- Each step keeps a store consistent, whatever has come before. -/
theorem Consistent.apply {s : Store} (hs : s.Consistent) {step : Step} (hstep : step.IsTyped) :
    (s.apply step).Consistent := by
  cases step with
  | ensure account origin target relations =>
    obtain ⟨k, hk, rfl⟩ := hstep
    rw [Store.apply, ensure]
    refine hs.alterEdge account origin target fun bonds hbonds => ?_
    rw [Bonds.foldl_ensure_eq (Bonds.timed_of_empty_or hbonds)]
    exact Bonds.addUp_foldl_reinforced hbonds hk 0 0
  | increment account origin target relations amount timestamp =>
    obtain ⟨k, hk, rfl⟩ := hstep
    exact hs.alterEdge account origin target fun bonds hbonds =>
      Bonds.addUp_foldl_reinforced hbonds hk amount timestamp
  | remove account p => exact hs.remove account p

theorem Consistent.run {s : Store} (hs : s.Consistent) {steps : List Step}
    (hsteps : ∀ step ∈ steps, step.IsTyped) : (s.run steps).Consistent := by
  induction steps generalizing s with
  | nil => exact hs
  | cons step rest ih =>
    exact ih (hs.apply (hsteps step List.mem_cons_self)) fun step' hmem =>
      hsteps step' (List.mem_cons_of_mem _ hmem)

end Store

/-! ## Schedules of calls -/

theorem Request.isTyped_of_mem_steps {q : Request} (hq : q.IsTyped) {account : String}
    {step : Store.Step} (h : step ∈ q.steps account) : step.IsTyped := by
  rcases mem_steps h with h | ⟨p, rfl⟩
  · obtain ⟨t, ht, e, _, rfl | rfl⟩ := Store.exists_of_mem_tying h
    · exact ⟨_, name_ne_of_mem_ties hq ht, rfl⟩
    · exact ⟨_, name_ne_of_mem_ties hq ht, rfl⟩
  · exact trivial

namespace Store

/-- Calls whose steps are interleaved in any order, removals among them, reach nothing but consistent
    stores. Each tie that one of them makes takes all its steps, and adds its full amount to both
    relations of each of its edges, also to an edge that has been removed since it was created. -/
theorem consistent_interleaved (calls : List (String × Request))
    (htyped : ∀ c ∈ calls, c.2.IsTyped) (schedule : List Step)
    (h : Interleaving (calls.map fun c => c.2.steps c.1) schedule) :
    (∀ before after, schedule = before ++ after → (({} : Store).run before).Consistent)
    ∧ ∀ c ∈ calls, ∀ t ∈ c.2.ties,
        let r := t.reinforcement
        let amount := r.multiplier * r.channel.weight
        let relations := [r.channel.name, "combined"]
        let edges := r.edges t.first t.second
        (∀ origin target, (origin, target) ∈ edges
            ↔ origin = t.first.key ∧ target = t.second.key
              ∨ r.directed = false ∧ origin = t.second.key ∧ target = t.first.key)
        ∧ (edges.map (fun e => Step.ensure c.1 e.1 e.2 relations)
            ++ edges.map fun e => Step.increment c.1 e.1 e.2 relations amount r.timestamp).Sublist
          schedule
        ∧ ∀ e ∈ edges, ∀ before after,
            let step := Step.increment c.1 e.1 e.2 relations amount r.timestamp
            schedule = before ++ step :: after → ∀ relation ∈ relations,
              let old := ((({} : Store).run before).bond? c.1 e.1 e.2 relation).getD {}
              (({} : Store).run (before ++ [step])).bond? c.1 e.1 e.2 relation
                = some ⟨old.weight + amount, max old.updatedAt r.timestamp⟩ := by
  have hsteps : ∀ step ∈ schedule, step.IsTyped := by
    intro step hstep
    obtain ⟨steps, hmem, hstep⟩ := h.mem hstep
    obtain ⟨c, hc, rfl⟩ := List.mem_map.1 hmem
    exact Request.isTyped_of_mem_steps (htyped c hc) hstep
  refine ⟨?_, fun c hc t ht => ⟨fun origin target => t.reinforcement.mem_edges, ?_, ?_⟩⟩
  · rintro before after rfl
    exact consistent_empty.run fun step hstep => hsteps step (List.mem_append_left _ hstep)
  · exact (Request.reinforcing_sublist_steps ht c.1).trans (h.sublist (List.mem_map.2 ⟨c, hc, rfl⟩))
  · intro e he before after step _ relation hrelation
    have hname := Request.name_ne_of_mem_ties (htyped c hc) ht
    have hcount : List.count relation [t.reinforcement.channel.name, "combined"] = 1 :=
      List.count_eq_one_of_mem (Reinforcement.nodup_relations hname) hrelation
    rw [run_append]
    refine (bond?_increment _ _ _ _ _ _ _ _ _ _ _).trans ?_
    rw [if_pos ⟨rfl, rfl, hrelation⟩, hcount]
    exact congrArg some (Bond.afterAll_singleton _ _ _)

/-- Two messages' worth of a reinforcement, while everything is being removed. -/
def crossing : List (String × Request) :=
  [("x", .reinforce ⟨"a", none⟩ ⟨"b", none⟩
      { channel := .direct, timestamp := 7, multiplier := 2 }),
    ("x", .remove .everything)]

/-- The first steps of a schedule in which the removal comes between the creation of the edges and
    their increase. -/
def crossingStart : List Step :=
  [.ensure "x" "a" "b" ["to", "combined"], .ensure "x" "b" "a" ["to", "combined"],
    .remove "x" Removal.everything.takes]

/-- The other steps of that schedule. -/
def crossingEnd : List Step :=
  [.increment "x" "a" "b" ["to", "combined"] 6 7, .increment "x" "b" "a" ["to", "combined"] 6 7]

theorem consistent_interleaved_crossing :
    Interleaving (crossing.map fun c => c.2.steps c.1) (crossingStart ++ crossingEnd)
      ∧ (({} : Store).run (crossingStart ++ crossingEnd.take 1)).Consistent
      ∧ (({} : Store).run crossingStart).edgeCount "x" = 0
      ∧ (({} : Store).run (crossingStart ++ crossingEnd.take 1)).bond? "x" "a" "b" "to"
          = some ⟨6, 7⟩ := by
  have hcrossing : Interleaving (crossing.map fun c => c.2.steps c.1)
      (crossingStart ++ crossingEnd) :=
    .next [] _ (.next [] _ (.next [_] [] (.next [] _ (.next [] _ (.done (by simp))))))
  have htyped : ∀ c ∈ crossing, c.2.IsTyped := by
    simp [crossing, Request.IsTyped, Request.channel?, Channel.direct, Channel.combinedName]
  obtain ⟨hconsistent, hties⟩ := consistent_interleaved crossing htyped _ hcrossing
  obtain ⟨_, _, hincrement⟩ := hties _ List.mem_cons_self
    ⟨⟨"a", none⟩, ⟨"b", none⟩, { channel := .direct, timestamp := 7, multiplier := 2 }⟩
    List.mem_cons_self
  have hbond := hincrement ("a", "b") (by decide) crossingStart (crossingEnd.drop 1) rfl "to"
    (by decide)
  exact ⟨hcrossing, hconsistent _ (crossingEnd.drop 1) rfl, by decide,
    hbond.trans (by decide +kernel)⟩

end Store

end Rapport
