import Mathlib.Data.List.Count
import Rapport.Proofs.List
import Rapport.Proofs.Registry.Phase

set_option autoImplicit false

/-! # Calls that overlap

Several calls may change at once which backend is active, while graphs that were handed out are
asked. A `World` is a deployment with the calls that are made to it, and a `Turn` is one phase of a
call or one request to a graph.

Every turn keeps `Sound`, which counts: a backend that was made active is active, or a call has yet
to shut it down, or it was shut down. From it follows `InOrder`, what can be relied on after any
turns.

A graph goes on with what its backend keeps, whatever the calls do. Turns are `Faithful` to a
backend if its graphs answer, and leave what they see, as though there were nothing but the requests
to graphs that share its home. All turns are, unless they shut down a backend whose database is in
the memory of its engine (`KeepsGraphs`, `not_faithful_replacing`). -/

namespace Rapport.Registry

/-! ## Turns -/

/-- What goes on next. -/
inductive Turn
  /-- A call goes on to its next phase. -/
  | call (i : Nat)
  /-- A graph of a backend answers a request. -/
  | ask (b : Backend) (account : String) (q : Request)

/-- The backend whose graph is asked. -/
def Turn.asked? : Turn → Option Backend
  | .call _ => none
  | .ask b _ _ => some b

/-- Whether a turn is a request to a graph that shares the home of a backend. -/
def Turn.isFor (b : Backend) (t : Turn) : Bool := t.asked?.any (·.shares b)

/-- A deployment, the calls made to it, and what has happened so far. -/
structure World where
  deployment : Deployment
  calls : List (Call × Progress)
  /-- What the swaps have made active, one after the other. -/
  swaps : List (Option Backend) := []
  /-- The backends that were shut down, one after the other. -/
  closed : List Backend := []
  /-- What graphs have answered, with their backends. -/
  answers : List (Backend × Except Failure Answer) := []

namespace World

/-- A deployment without active backend, and calls that have not begun. -/
def start (d : Deployment) (calls : List Call) : World where
  deployment := { d with active := none }
  calls := calls.map (·, .waiting)

/-- A call has gone on from `p` to `q`, and has left the deployment `d`. -/
def advance (w : World) (i : Nat) (call : Call) (p q : Progress) (d : Deployment) : World :=
  { w with
    deployment := d
    calls := w.calls.set i (call, q)
    swaps := w.swaps ++ q.swaps
    closed := w.closed ++ p.pending }

def turn (w : World) : Turn → World
  | .call i =>
    match w.calls[i]? with
    | none => w
    | some (call, p) =>
      let (result, t) := (call.phase p).outcome w.deployment
      w.advance i call p (.ofResult result) t.state
  | .ask b account q =>
    let (result, t) := ((b.graph account).serve q).outcome w.deployment
    { w with deployment := t.state, answers := w.answers ++ [(b, result)] }

def run (w : World) (turns : List Turn) : World := turns.foldl turn w

/-- The backends that were ever active. -/
def installed (w : World) : List Backend := w.swaps.filterMap id

/-- The backends that are built and not yet active. -/
def underway (w : World) : List Backend := w.calls.flatMap fun c => c.2.underway

/-- The backends that calls have yet to shut down. -/
def pending (w : World) : List Backend := w.calls.flatMap fun c => c.2.pending

/-! ## What a turn keeps -/

/-- The backends that were built have numbers of their own. -/
structure Numbered (w : World) : Prop where
  once : ((w.installed ++ w.underway).map Backend.serial).Nodup
  below : ∀ b ∈ w.installed ++ w.underway, b.serial < w.deployment.built

/-- The swaps tell which backend is active, and no backend that was made active is lost. -/
structure Balanced (w : World) : Prop where
  active : w.deployment.active = w.swaps.getLast?.join
  count : ∀ b, w.installed.count b
    = w.deployment.active.toList.count b + w.pending.count b + w.closed.count b

/-- What is true of all worlds that turns lead to. -/
structure Sound (w : World) : Prop where
  numbered : w.Numbered
  balanced : w.Balanced

theorem sound_start (d : Deployment) (calls : List Call) : (start d calls).Sound := by
  have hpending : (start d calls).pending = [] := by simp [pending, start, Progress.pending]
  have hunderway : (start d calls).underway = [] := by simp [underway, start, Progress.underway]
  have hknown : (start d calls).installed ++ (start d calls).underway = [] := by
    rw [hunderway]
    rfl
  refine ⟨⟨?_, fun b hb => ?_⟩, rfl, fun b => ?_⟩
  · rw [hknown]
    exact List.nodup_nil
  · rw [hknown] at hb
    exact absurd hb List.not_mem_nil
  · rw [hpending]
    rfl

variable {w : World} {i : Nat} {call : Call} {p q : Progress} {d : Deployment}

theorem turn_call_cases (w : World) (i : Nat) :
    w.turn (.call i) = w ∨ ∃ call p q d, w.calls[i]? = some (call, p)
      ∧ Moves p w.deployment q d ∧ w.turn (.call i) = w.advance i call p q d := by
  rw [turn]
  cases hcall : w.calls[i]? with
  | none => exact Or.inl rfl
  | some c =>
    obtain ⟨call, p⟩ := c
    obtain ⟨result, d, hends, hmoves⟩ := call.exists_moves p w.deployment
    refine Or.inr ⟨call, p, _, d, rfl, hmoves, ?_⟩
    dsimp only
    rw [hends.outcome.1, hends.outcome.2]

theorem installed_advance : (w.advance i call p q d).installed
    = w.installed ++ q.swaps.filterMap id := List.filterMap_append

theorem count_pending_advance (hcall : w.calls[i]? = some (call, p)) (b : Backend) :
    p.pending.count b + (w.advance i call p q d).pending.count b
      = q.pending.count b + w.pending.count b := by
  have hperm := perm_flatMap_set (fun c : Call × Progress => c.2.pending) hcall (call, q)
  rw [← List.count_append, ← List.count_append]
  exact hperm.count_eq b

/-- The backends that are known after a phase are those known before and the one it has built. One
    that the phase makes active was underway. -/
theorem perm_installed_advance (hcall : w.calls[i]? = some (call, p)) :
    (p.underway ++ ((w.advance i call p q d).installed ++ (w.advance i call p q d).underway)).Perm
      (q.swaps.filterMap id ++ q.underway ++ (w.installed ++ w.underway)) := by
  have hperm : (p.underway ++ (w.advance i call p q d).underway).Perm
      (q.underway ++ w.underway) :=
    perm_flatMap_set (fun c : Call × Progress => c.2.underway) hcall (call, q)
  rw [List.perm_iff_count] at hperm ⊢
  intro b
  have hcount := hperm b
  simp only [installed_advance, List.count_append] at hcount ⊢
  omega

theorem Numbered.of_perm (h : w.Numbered) {w' : World}
    (hknown : (w'.installed ++ w'.underway).Perm (w.installed ++ w.underway))
    (hbuilt : w'.deployment.built = w.deployment.built) : w'.Numbered where
  once := (hknown.map Backend.serial).nodup_iff.2 h.once
  below b hb := hbuilt ▸ h.below b (hknown.mem_iff.1 hb)

theorem Numbered.advance (h : w.Numbered) (hcall : w.calls[i]? = some (call, p))
    (hmoves : Moves p w.deployment q d) : (w.advance i call p q d).Numbered := by
  have hperm := perm_installed_advance (q := q) (d := d) hcall
  cases hmoves with
  | builds =>
    -- The new number is the count of all backends built before, so that none of them has it.
    refine ⟨(hperm.map Backend.serial).nodup_iff.2 (List.nodup_cons.2 ⟨?_, h.once⟩),
      fun b hb => ?_⟩
    · intro hmem
      obtain ⟨b, hb, hserial⟩ := List.mem_map.1 hmem
      exact absurd hserial (Nat.ne_of_lt (h.below b hb))
    · have hmem := hperm.mem_iff.1 hb
      rcases List.mem_cons.1 hmem with rfl | hmem
      · exact Nat.lt_succ_self _
      · exact Nat.lt_succ_of_lt (h.below b hmem)
  | swaps hnext =>
    rw [hnext, Progress.swaps, Progress.underway, filterMap_id_singleton, List.append_nil] at hperm
    exact h.of_perm ((List.perm_append_left_iff _).1 hperm) rfl
  | closes => exact h.of_perm hperm (active_closing? _ _).2
  | rests hnone hover =>
    rw [hnone, Progress.swaps_of_isOver hover, Progress.underway_of_isOver hover] at hperm
    exact h.of_perm hperm rfl

theorem Balanced.advance (h : w.Balanced) (hcall : w.calls[i]? = some (call, p))
    (hmoves : Moves p w.deployment q d) : (w.advance i call p q d).Balanced where
  active := by
    show d.active = (w.swaps ++ q.swaps).getLast?.join
    rcases hmoves.active_cases with ⟨hnone, hactive⟩ | hsome
    · rw [hnone, List.append_nil, hactive]
      exact h.active
    · rw [hsome, List.getLast?_concat, Option.join_some]
  count b := by
    have hactive := hmoves.count_active b
    have hpending := count_pending_advance (q := q) (d := d) hcall b
    have hcount := h.count b
    show _ = d.active.toList.count b + _ + (w.closed ++ p.pending).count b
    rw [installed_advance, List.count_append, List.count_append]
    omega

theorem Sound.turn_call (h : w.Sound) (i : Nat) : (w.turn (.call i)).Sound := by
  rcases w.turn_call_cases i with hsame | ⟨call, p, q, d, hcall, hmoves, hturn⟩
  · rw [hsame]
    exact h
  · rw [hturn]
    exact ⟨h.numbered.advance hcall hmoves, h.balanced.advance hcall hmoves⟩

theorem Sound.turn_ask (h : w.Sound) (b : Backend) (account : String) (q : Request) :
    (w.turn (.ask b account q)).Sound := by
  obtain ⟨hactive, hbuilt⟩ := b.active_serve account q w.deployment
  refine ⟨h.numbered.of_perm (List.Perm.refl _) hbuilt, hactive.trans h.balanced.active,
    fun b' => ?_⟩
  have hcount := h.balanced.count b'
  rw [← hactive] at hcount
  exact hcount

theorem Sound.run (h : w.Sound) (turns : List Turn) : (w.run turns).Sound := by
  induction turns generalizing w with
  | nil => exact h
  | cons t rest ih =>
    cases t with
    | call i => exact ih (h.turn_call i)
    | ask b account q => exact ih (h.turn_ask b account q)

/-! ## Which backend is active -/

/-- What can be relied on however calls overlap. -/
structure InOrder (w : World) : Prop where
  /-- The active backend is the one that the last swap made active. -/
  active : w.deployment.active = w.swaps.getLast?.join
  live : ∀ b ∈ w.deployment.active, b ∉ w.closed
  once : w.closed.Nodup
  /-- Once all calls are over, all backends that were ever active are shut down, but for the one
      that still is. -/
  settled : (∀ c ∈ w.calls, c.2.isOver = true) →
    ∀ b, some b ∈ w.swaps → w.deployment.active ≠ some b → w.closed.count b = 1

theorem mem_installed {b : Backend} : b ∈ w.installed ↔ some b ∈ w.swaps := by
  simp [installed]

theorem Numbered.nodup_installed (h : w.Numbered) : (w.installed.map Backend.serial).Nodup :=
  h.once.sublist ((List.sublist_append_left _ _).map _)

theorem Sound.inOrder (h : w.Sound) : w.InOrder := by
  have hone := List.nodup_iff_count_le_one.1 h.numbered.nodup_installed.of_map
  have hcount := h.balanced.count
  refine ⟨h.balanced.active, fun b hactive hclosed => ?_, ?_, fun hover b hb hactive => ?_⟩
  · have hpos : 0 < w.closed.count b := List.count_pos_iff.2 hclosed
    have hactive : w.deployment.active.toList.count b = 1 := by
      rw [Option.mem_def.1 hactive, Option.toList_some, List.count_singleton_self]
    have := hone b
    have := hcount b
    omega
  · rw [List.nodup_iff_count_le_one]
    intro b
    have := hone b
    have := hcount b
    omega
  · have hpos : 0 < w.installed.count b := List.count_pos_iff.2 (mem_installed.2 hb)
    have hpending : w.pending = [] :=
      List.flatMap_eq_nil_iff.2 fun c hc => Progress.pending_of_isOver (hover c hc)
    have hactive : w.deployment.active.toList.count b = 0 :=
      List.count_eq_zero.2 fun hmem => hactive (Option.mem_toList.1 hmem)
    have := hone b
    have hcount := hcount b
    rw [hpending, List.count_nil] at hcount
    omega

/-! ## Settings that are of no use -/

/-- A call whose backend cannot be built ends at once, and nothing but the call changes then or
    later. Where there is no builder the settings are to blame. -/
structure TakesRefusals (w : World) : Prop where
  refused : ∀ i call settings f, w.calls[i]? = some (call, .waiting) →
    call.settings? = some settings → medium? settings w.deployment = .error f →
      w.turn (.call i) = { w with calls := w.calls.set i (call, call.refusal f) }
  settled : ∀ i call p, w.calls[i]? = some (call, p) → p.isOver = true → w.turn (.call i) = w
  missing : ∀ settings, w.deployment.builders.lookup settings.backend = none →
    ∃ f, medium? settings w.deployment = .error f ∧ f.kind = .configuration

theorem takesRefusals (w : World) : w.TakesRefusals where
  refused i call settings f hcall hsettings hmedium := by
    obtain ⟨result, hends, hrefusal⟩ := Call.exists_ends_phase_refused hsettings hmedium
    simp only [turn, hcall, advance, hends.outcome.1, hends.outcome.2, hrefusal,
      Progress.swaps_of_isOver (call.isOver_refusal f), Progress.pending, List.append_nil]
  settled i call p hcall hover := by
    obtain ⟨result, hends, hresult⟩ := call.exists_ends_phase_of_isOver hover w.deployment
    have hset : w.calls.set i (call, p) = w.calls := by
      obtain ⟨hi, hget⟩ := List.getElem?_eq_some_iff.1 hcall
      rw [← hget, List.set_getElem_self]
    simp only [turn, hcall, advance, hends.outcome.1, hends.outcome.2, hresult, hset,
      Progress.swaps_of_isOver hover, Progress.pending_of_isOver hover, List.append_nil]
  missing settings hlookup := by
    refine ⟨.noBackend settings.backend, ?_, rfl⟩
    rw [medium?, hlookup]

/-! ## Graphs that were handed out -/

/-- What the graphs of a backend have answered. -/
def answersOf (w : World) (b : Backend) : List (Except Failure Answer) :=
  w.answers.filterMap fun a => if a.1 = b then some a.2 else none

/-- The graphs of a backend answer, and leave what they see, as though the turns were no more than
    the requests to graphs that share the home of the backend. -/
structure Faithful (w : World) (b : Backend) (turns : List Turn) : Prop where
  answered : (w.run turns).answersOf b = (w.run (turns.filter (·.isFor b))).answersOf b
  kept : b.view (w.run turns).deployment = b.view (w.run (turns.filter (·.isFor b))).deployment

theorem subset_turn (w : World) (t : Turn) :
    w.installed ⊆ (w.turn t).installed ∧ w.closed ⊆ (w.turn t).closed := by
  cases t with
  | call i =>
    rcases w.turn_call_cases i with hsame | ⟨call, p, q, d, _, _, hturn⟩
    · rw [hsame]
      exact ⟨List.Subset.refl _, List.Subset.refl _⟩
    · rw [hturn, installed_advance]
      exact ⟨List.subset_append_left _ _, List.subset_append_left _ _⟩
  | ask b account q => exact ⟨List.Subset.refl _, List.Subset.refl _⟩

theorem subset_run (w : World) (turns : List Turn) :
    w.installed ⊆ (w.run turns).installed ∧ w.closed ⊆ (w.run turns).closed := by
  induction turns generalizing w with
  | nil => exact ⟨List.Subset.refl _, List.Subset.refl _⟩
  | cons t rest ih =>
    obtain ⟨hinstalled, hclosed⟩ := w.subset_turn t
    exact ⟨List.Subset.trans hinstalled (ih (w.turn t)).1,
      List.Subset.trans hclosed (ih (w.turn t)).2⟩

variable {b : Backend}

/-- A backend that has yet to be shut down was active. -/
theorem Balanced.mem_installed_of_mem_pending (h : w.Balanced)
    (hcall : w.calls[i]? = some (call, p)) (hb : b ∈ p.pending) : b ∈ w.installed := by
  have hpending : b ∈ w.pending :=
    List.mem_flatMap.2 ⟨(call, p), List.mem_of_getElem? hcall, hb⟩
  have hpos := List.count_pos_iff.2 hpending
  have hcount := h.count b
  exact List.count_pos_iff.1 (by omega)

/-- A call takes nothing from a backend, unless it shuts it down and the backend is volatile. -/
theorem Sound.alike_turn_call (h : w.Sound) (hb : b ∈ w.installed)
    (hclosed : b.isVolatile = true → b ∉ (w.turn (.call i)).closed) {others : List Backend}
    {d' : Deployment} (halike : b.Alike others w.deployment d') :
    b.Alike others (w.turn (.call i)).deployment d' := by
  rcases w.turn_call_cases i with hsame | ⟨call, p, q, d, hcall, hmoves, hturn⟩
  · rw [hsame]
    exact halike
  · rw [hturn] at hclosed ⊢
    show b.Alike others d d'
    cases hmoves with
    | builds => exact ⟨halike.directories, halike.kept, halike.ready⟩
    | swaps _ => exact ⟨halike.directories, halike.kept, halike.ready⟩
    | closes =>
      rename_i next previous answer
      cases previous with
      | none => exact halike
      | some b' =>
        -- It is the backend itself if it has the same number, since both were active once.
        refine halike.closing_left fun hserial => ?_
        have hb' : b' ∈ (Progress.swapped next (some b')).pending := List.mem_singleton_self b'
        obtain rfl := List.inj_on_of_nodup_map h.numbered.nodup_installed
          (h.balanced.mem_installed_of_mem_pending hcall hb') hb hserial
        rw [← Bool.not_eq_true]
        exact fun hvolatile => hclosed hvolatile (List.mem_append_right _ hb')
    | rests _ _ => exact halike

theorem answersOf_turn_call (w : World) (i : Nat) (b : Backend) :
    (w.turn (.call i)).answersOf b = w.answersOf b := by
  rcases w.turn_call_cases i with hsame | ⟨call, p, q, d, _, _, hturn⟩
  · rw [hsame]
  · rw [hturn]
    rfl

theorem answersOf_turn_ask (w : World) (b b' : Backend) (account : String) (q : Request) :
    (w.turn (.ask b' account q)).answersOf b = w.answersOf b
      ++ if b' = b then [(((b'.graph account).serve q).outcome w.deployment).1] else [] := by
  have hturn : (w.turn (.ask b' account q)).answers
      = w.answers ++ [(b', (((b'.graph account).serve q).outcome w.deployment).1)] := rfl
  rw [answersOf, hturn, List.filterMap_append, answersOf]
  by_cases hb : b' = b
  · simp [hb]
  · simp [hb]

/-- Two worlds that are alike to a backend stay so, whatever else goes on in one of them. -/
theorem Sound.alike_run (h : w.Sound) (hb : b ∈ w.installed) {w' : World} {others : List Backend}
    (hothers : ∀ b₁ ∈ others, ∀ b₂ ∈ others, b₁.serial = b₂.serial → b₁ = b₂)
    (hanswers : w.answersOf b = w'.answersOf b) (halike : b.Alike others w.deployment w'.deployment)
    {turns : List Turn} (hturns : ∀ t ∈ turns, ∀ b' ∈ t.asked?, b' ∈ others)
    (hclosed : b.isVolatile = true → b ∉ (w.run turns).closed) :
    (w.run turns).answersOf b = (w'.run (turns.filter (·.isFor b))).answersOf b
      ∧ b.Alike others (w.run turns).deployment
        (w'.run (turns.filter (·.isFor b))).deployment := by
  induction turns generalizing w w' with
  | nil => exact ⟨hanswers, halike⟩
  | cons t rest ih =>
    have hrest : ∀ t ∈ rest, ∀ b' ∈ t.asked?, b' ∈ others :=
      fun t ht => hturns t (List.mem_cons_of_mem _ ht)
    have hb₁ := (w.subset_turn t).1 hb
    cases t with
    | call i =>
      have hnow : b.isVolatile = true → b ∉ (w.turn (.call i)).closed :=
        fun hvolatile hmem => hclosed hvolatile ((subset_run _ rest).2 hmem)
      rw [List.filter_cons_of_neg (by simp [Turn.isFor, Turn.asked?])]
      exact ih (h.turn_call i) hb₁ ((answersOf_turn_call w i b).trans hanswers)
        (h.alike_turn_call hb hnow halike) hrest hclosed
    | ask b' account q =>
      have hb' : b' ∈ others := hturns _ List.mem_cons_self b' rfl
      have hsound := h.turn_ask b' account q
      -- Only a graph that shares the home is asked in both worlds.
      by_cases hshares : b'.shares b = true
      · obtain ⟨hanswer, hafter⟩ := halike.serve hb' hshares account q
        rw [List.filter_cons_of_pos (by simpa [Turn.isFor, Turn.asked?] using hshares)]
        refine ih hsound hb₁ ?_ hafter hrest hclosed
        rw [answersOf_turn_ask, answersOf_turn_ask, hanswers, hanswer]
      · have hne : b' ≠ b := by
          rintro rfl
          exact hshares (by simp [Backend.shares])
        rw [List.filter_cons_of_neg (by simpa [Turn.isFor, Turn.asked?] using hshares)]
        refine ih hsound hb₁ ?_ (halike.serve_left hothers hb' hshares account q) hrest hclosed
        rw [answersOf_turn_ask, if_neg hne, List.append_nil, hanswers]

/-- What can be relied on by those who hold graphs of a backend that was ever active, whatever
    turns follow and whichever graphs are asked that are handed out meanwhile. -/
structure KeepsGraphs (w : World) : Prop where
  faithful : ∀ b turns, some b ∈ w.swaps →
    (∀ t ∈ turns, ∀ b' ∈ t.asked?, some b' ∈ (w.run turns).swaps) →
      (b.isVolatile = true → b ∉ (w.run turns).closed) → w.Faithful b turns
  /-- A volatile backend that is shut down has no tables any more, but does not know it. -/
  lost : ∀ i (call : Call) next (b : Backend),
    w.calls[i]? = some (call, .swapped next (some b)) → b.isVolatile = true →
      b.view (w.turn (.call i)).deployment = (b.view w.deployment).map id Backend.blanked

theorem Sound.keepsGraphs (h : w.Sound) : w.KeepsGraphs where
  faithful b turns hb hturns hclosed := by
    have hb := mem_installed.2 hb
    have hothers := List.inj_on_of_nodup_map (h.run turns).numbered.nodup_installed
    obtain ⟨hanswers, halike⟩ := h.alike_run hb
      (fun b₁ hb₁ b₂ hb₂ heq => hothers hb₁ hb₂ heq) rfl (Backend.Alike.refl b _ _)
      (fun t ht b' hb' => mem_installed.2 (hturns t ht b' hb')) hclosed
    exact ⟨hanswers, halike.view_eq ((w.subset_run turns).1 hb) (by simp [Backend.shares])⟩
  lost i call next b hcall hvolatile := by
    obtain ⟨hresult, hstate⟩ := (call.ends_phase_swapped next (some b) w.deployment).outcome
    simp only [turn, hcall, advance, hstate]
    exact Backend.view_closing_self hvolatile w.deployment

/-- However calls that change the active backend overlap, with each other and with requests to
    graphs: the active backend is the one of the last swap and is not shut down, every other one is
    shut down once, calls whose backend cannot be built change nothing, and graphs that were handed
    out go on with what their backend keeps, if that is not lost when the backend is shut down. -/
theorem lifeCycle (d : Deployment) (calls : List Call) (turns : List Turn) :
    ((start d calls).run turns).InOrder ∧ ((start d calls).run turns).TakesRefusals
      ∧ ((start d calls).run turns).KeepsGraphs :=
  have hsound := (sound_start d calls).run turns
  ⟨hsound.inOrder, takesRefusals _, hsound.keepsGraphs⟩

/-! ## A database in the memory of an engine -/

/-- The settings of a backend with a database in the memory of its engine. -/
def memorySettings : Settings :=
  { backend := .sql, backendUrl := some "sqlite+aiosqlite:///:memory:" }

/-- The backend that `memorySettings` build first. -/
def memoryBackend : Backend :=
  ⟨0, .database
    { dialect := .sqlite
      driver := "sqlite+aiosqlite"
      location := .memory
      path := some ":memory:" } {}⟩

/-- The backend is active, and two contacts are tied in the graph of an account. -/
def tied : World :=
  (start {} [.configure memorySettings, .configure {}]).run
    [.call 0, .call 0, .call 0,
      .ask memoryBackend "acct-1" (.reinforce ⟨"a", none⟩ ⟨"b", none⟩
        { channel := .direct, timestamp := 10 })]

/-- Another backend takes its place, and the graph is asked for the tie. -/
def replacing : List Turn :=
  [.call 1, .call 1, .call 1, .ask memoryBackend "acct-1" (.bond ⟨"a", none⟩ ⟨"b", none⟩ none)]

/-- A graph that was handed out does not find what it has written, once its backend has been
    replaced. -/
theorem not_faithful_replacing :
    some memoryBackend ∈ tied.swaps
      ∧ (∀ t ∈ replacing, ∀ b ∈ t.asked?, some b ∈ (tied.run replacing).swaps)
      ∧ ¬tied.Faithful memoryBackend replacing := by
  have hinstalled : some memoryBackend ∈ tied.swaps := by decide +kernel
  have hreplaced : some memoryBackend ∈ (tied.run replacing).swaps := by decide +kernel
  have hfails : (tied.run replacing).answersOf memoryBackend
      = [.ok .done, .error (.statementRefused .read "acct-1")] := by decide +kernel
  have hfinds : (tied.run (replacing.filter (·.isFor memoryBackend))).answersOf memoryBackend
      = [.ok .done, .ok (.bond (some ⟨3, 10⟩))] := by decide +kernel
  refine ⟨hinstalled, fun t ht b hb => ?_, fun h => ?_⟩
  · have hasked : replacing.map Turn.asked? = [none, none, none, some memoryBackend] := rfl
    have hmem : some b ∈ replacing.map Turn.asked? := List.mem_map.2 ⟨t, ht, hb⟩
    rw [hasked] at hmem
    obtain rfl : b = memoryBackend := by simpa using hmem
    exact hreplaced
  · have hanswered := h.answered
    rw [hfails, hfinds] at hanswered
    simp at hanswered

end World

end Rapport.Registry
