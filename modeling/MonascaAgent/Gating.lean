import MonascaAgent.Tagging

/-!
# MonascaAgent.Gating

What `report_container_metrics` changes in `_process_containers`. With the flag set the parsers
also send each field as a `container.` sample, and `_send_metrics` leaves a `unit` in the
container dimensions, which the loop writes back into the container-ID map. Neither reaches the
pod keys, the pod accumulators, or any place the method can raise.

* `AddsContainerSamples n₁ n₀` — `n₁` is `n₀` with container-level samples inserted.
* `Gated x₁ x₀ R` — a run with the flag and one without: the same error, or results related by
  `R`; the samples of the first are those of the second plus container-level ones.
* `SameBesidesUnit`, `SameRecords` — the relation between the two runs' dimensions and
  container-ID maps.
* `processContainers_reportGated` — for every pair of documents and every pair of maps,
  `_process_containers` returns or raises the same with and without the flag, and emits the
  same samples in the same order apart from the container-level ones.
* `GatedIfOk` — the same comparison, made only when the run with the flag returns:
  `_report_container_limits` can raise where nothing raises without the flag.
* `check_reportGated` — a whole cycle that returns with the flag returns without it, and emits
  the same samples apart from the container-level ones.
-/

namespace MonascaAgent
namespace Kubernetes

open CheckM

/-! ## Two runs -/

/-- A container-level sample: its name starts with `container.`. -/
def ContainerLevel (s : Sample) : Prop := "container.".toList <+: s.name.toList

/-- `n₁` is `n₀` with container-level samples inserted. -/
inductive AddsContainerSamples : List Sample → List Sample → Prop
  | nil : AddsContainerSamples [] []
  | same (s : Sample) {n₁ n₀ : List Sample} : AddsContainerSamples n₁ n₀ →
      AddsContainerSamples (s :: n₁) (s :: n₀)
  | extra {s : Sample} {n₁ n₀ : List Sample} : ContainerLevel s → AddsContainerSamples n₁ n₀ →
      AddsContainerSamples (s :: n₁) n₀

namespace AddsContainerSamples

theorem refl : ∀ n : List Sample, AddsContainerSamples n n
  | [] => .nil
  | s :: n => .same s (refl n)

theorem append {a₁ a₀ b₁ b₀ : List Sample} (ha : AddsContainerSamples a₁ a₀)
    (hb : AddsContainerSamples b₁ b₀) : AddsContainerSamples (a₁ ++ b₁) (a₀ ++ b₀) := by
  induction ha with
  | nil => exact hb
  | same s _ ih => exact .same s ih
  | extra hs _ ih => exact .extra hs ih

theorem of_containerLevel {n : List Sample} (h : ∀ s ∈ n, ContainerLevel s) :
    AddsContainerSamples n [] := by
  induction n with
  | nil => exact .nil
  | cons s n ih =>
    exact .extra (h s (List.mem_cons_self _ _)) (ih fun t ht => h t (List.mem_cons_of_mem _ ht))

end AddsContainerSamples

def ExceptRel {α β : Type} (R : α → β → Prop) : Except Err α → Except Err β → Prop
  | .ok a, .ok b => R a b
  | .error e, .error e' => e = e'
  | _, _ => False

theorem exceptRel_refl {α : Type} {R : α → α → Prop} (hR : ∀ a, R a a) :
    ∀ x : Except Err α, ExceptRel R x x
  | .error _ => rfl
  | .ok a => hR a

/-- A run `x₁` with the flag and a run `x₀` without it, neither reading the samples before it:
the same error, or results related by `R`, and the samples of `x₁` are those of `x₀` with
container-level samples inserted. -/
def Gated {α β : Type} (x₁ : CheckM α) (x₀ : CheckM β) (R : α → β → Prop) : Prop :=
  ∃ r₁ n₁ r₀ n₀, (∀ out, exec x₁ out = (r₁, out ++ n₁)) ∧ (∀ out, exec x₀ out = (r₀, out ++ n₀)) ∧
    AddsContainerSamples n₁ n₀ ∧ ExceptRel R r₁ r₀

section Gated

variable {α β γ δ : Type} {R : α → β → Prop}

theorem gated_pure {a : α} {b : β} (h : R a b) : Gated (pure a) (pure b) R :=
  ⟨.ok a, [], .ok b, [], fun _ => by simp, fun _ => by simp, .nil, h⟩

theorem gated_ofExcept {e₁ : Except Err α} {e₀ : Except Err β} (h : ExceptRel R e₁ e₀) :
    Gated (MonadExcept.ofExcept e₁) (MonadExcept.ofExcept e₀) R :=
  ⟨e₁, [], e₀, [], fun _ => by simp, fun _ => by simp, .nil, h⟩

theorem gated_ofExcept_same (e : Except Err α) :
    Gated (MonadExcept.ofExcept e) (MonadExcept.ofExcept e) (· = ·) :=
  gated_ofExcept (exceptRel_refl (fun _ => rfl) e)

theorem gated_refl {R : α → α → Prop} (hR : ∀ a, R a a) {P : Sample → Prop} {Q : α → Prop}
    {x : CheckM α} (hx : Emits P x Q) : Gated x x R := by
  obtain ⟨r, n, hx, -, -⟩ := hx
  exact ⟨r, n, r, n, hx, hx, .refl n, exceptRel_refl hR r⟩

/-- A computation of the first run alone that always returns and emits only container-level
samples, against one of the second that returns at once. -/
theorem gated_extra {x₁ : CheckM α} {x₀ : CheckM β} {a : α} {b : β} {n : List Sample}
    (hx₁ : ∀ out, exec x₁ out = (.ok a, out ++ n)) (hn : ∀ s ∈ n, ContainerLevel s)
    (hx₀ : ∀ out, exec x₀ out = (.ok b, out)) (h : R a b) : Gated x₁ x₀ R :=
  ⟨.ok a, n, .ok b, [], hx₁, fun out => by rw [hx₀, List.append_nil], .of_containerLevel hn, h⟩

theorem gated_bind {S : γ → δ → Prop} {x₁ : CheckM α} {x₀ : CheckM β} {f₁ : α → CheckM γ}
    {f₀ : β → CheckM δ} (hx : Gated x₁ x₀ R) (hf : ∀ a b, R a b → Gated (f₁ a) (f₀ b) S) :
    Gated (x₁ >>= f₁) (x₀ >>= f₀) S := by
  obtain ⟨r₁, n₁, r₀, n₀, h₁, h₀, hn, hr⟩ := hx
  cases r₁ <;> cases r₀ <;> simp only [ExceptRel] at hr
  case error.error e₁ e₀ =>
    exact ⟨.error e₁, n₁, .error e₀, n₀, fun out => by rw [exec_bind, h₁],
      fun out => by rw [exec_bind, h₀], hn, hr⟩
  case ok.ok a b =>
    obtain ⟨r₁', m₁, r₀', m₀, g₁, g₀, hm, hr'⟩ := hf a b hr
    exact ⟨r₁', n₁ ++ m₁, r₀', n₀ ++ m₀,
      fun out => by rw [exec_bind, h₁]; exact (g₁ _).trans (by rw [List.append_assoc]),
      fun out => by rw [exec_bind, h₀]; exact (g₀ _).trans (by rw [List.append_assoc]),
      hn.append hm, hr'⟩

theorem gated_ite {c : Prop} [Decidable c] {x₁ y₁ : CheckM α} {x₀ y₀ : CheckM β}
    (hx : c → Gated x₁ x₀ R) (hy : ¬c → Gated y₁ y₀ R) :
    Gated (if c then x₁ else y₁) (if c then x₀ else y₀) R := by
  split_ifs with h
  exacts [hx h, hy h]

theorem gated_foldlM {σ τ : Type} {f₁ : σ → γ → CheckM σ} {f₀ : τ → γ → CheckM τ} {xs : List γ}
    {I : σ → τ → Prop} (h : ∀ s₁ s₀ b, b ∈ xs → I s₁ s₀ → Gated (f₁ s₁ b) (f₀ s₀ b) I) :
    ∀ {s₁ s₀}, I s₁ s₀ → Gated (xs.foldlM f₁ s₁) (xs.foldlM f₀ s₀) I := by
  induction xs with
  | nil => exact fun hs => gated_pure hs
  | cons b rest ih =>
    intro s₁ s₀ hs
    rw [List.foldlM_cons, List.foldlM_cons]
    exact gated_bind (h s₁ s₀ b (List.mem_cons_self _ _) hs)
      fun _ _ hs' => ih (fun s₁ s₀ b hb => h s₁ s₀ b (List.mem_cons_of_mem _ hb)) hs'

end Gated

/-! ## Dimensions that differ only in `unit` -/

/-- The two runs' dimensions agree everywhere but at `unit`. -/
def SameBesidesUnit (d₁ d₀ : Dims) : Prop := ∀ x, x ≠ "unit" → d₁.get? x = d₀.get? x

def SameRecords (M₁ M₀ : Dict Dims) : Prop := ∀ c, Option.Rel SameBesidesUnit (M₁.get? c) (M₀.get? c)

namespace SameBesidesUnit

theorem refl (d : Dims) : SameBesidesUnit d d := fun _ _ => rfl

theorem insert {d₁ d₀ : Dims} (h : SameBesidesUnit d₁ d₀) (k v : String) :
    SameBesidesUnit (d₁.insert k v) (d₀.insert k v) := fun x hx => by
  simp only [Dict.get?_insert, h x hx]

theorem insert_unit {d₁ d₀ : Dims} (h : SameBesidesUnit d₁ d₀) (u : String) :
    SameBesidesUnit (d₁.insert "unit" u) d₀ := fun x hx => by
  rw [Dict.get?_insert, if_neg hx, h x hx]

theorem update {d₁ d₀ : Dims} (h : SameBesidesUnit d₁ d₀) (e : Dims) :
    SameBesidesUnit (d₁.update e) (d₀.update e) := fun x hx => by
  simp only [Dict.get?_update, h x hx]

theorem podKeyOf_eq {d₁ d₀ : Dims} (h : SameBesidesUnit d₁ d₀) : podKeyOf d₁ = podKeyOf d₀ := by
  simp only [podKeyOf, Dict.getItem, h "pod_name" (by decide), h "namespace" (by decide)]

end SameBesidesUnit

namespace SameRecords

theorem refl (M : Dict Dims) : SameRecords M M := fun c => by
  cases M.get? c
  exacts [.none, .some (SameBesidesUnit.refl _)]

theorem insert {M₁ M₀ : Dict Dims} (h : SameRecords M₁ M₀) (c : String) {r₁ r₀ : Dims}
    (hr : SameBesidesUnit r₁ r₀) : SameRecords (M₁.insert c r₁) (M₀.insert c r₀) := fun c' => by
  simp only [Dict.get?_insert]
  split
  exacts [.some hr, h c']

theorem contains_eq {M₁ M₀ : Dict Dims} (h : SameRecords M₁ M₀) (c : String) :
    M₁.contains c = M₀.contains c := by
  have hc := h c
  simp only [Dict.contains]
  generalize M₁.get? c = a at hc ⊢
  generalize M₀.get? c = b at hc ⊢
  cases hc <;> rfl

end SameRecords

theorem getContainerDimensions_sameRecords {M₁ M₀ : Dict Dims} (hM : SameRecords M₁ M₀)
    (container : String) (dims : Dims) (spec : ContainerSpec) (D : Dict Dims) :
    ExceptRel (fun r₁ r₀ => r₁.1 = r₀.1 ∧ SameBesidesUnit r₁.2 r₀.2)
      (getContainerDimensions container dims spec M₁ D)
      (getContainerDimensions container dims spec M₀ D) := by
  have hc := hM (containerIdOf container spec.aliases)
  unfold getContainerDimensions
  generalize M₁.get? (containerIdOf container spec.aliases) = a at hc ⊢
  generalize M₀.get? (containerIdOf container spec.aliases) = b at hc ⊢
  cases hc with
  | none => exact exceptRel_refl (fun r => ⟨rfl, SameBesidesUnit.refl _⟩) _
  | some hr =>
    dsimp only
    rw [hr.podKeyOf_eq]
    cases podKeyOf _
    exacts [rfl, ⟨rfl, hr⟩]

/-! ## The two runs of `_process_containers` -/

theorem catalogSamples_containerLevel (name : String) (value : Rat) (dims : Dims) :
    ∀ s ∈ catalogSamples "container." name value dims, ContainerLevel s := by
  unfold catalogSamples
  split
  · simp
  · simp only [List.mem_filterMap, forall_exists_index, and_imp]
    intro s p _ hp
    split_ifs at hp <;> cases hp
    · exact ⟨name.toList, by simp⟩
    · exact ⟨name.toList ++ "_sec".toList, by simp⟩

section Runs

variable {k₁ k₀ : Kubernetes} (h₁ : k₁.reportContainerMetrics = true)
  (h₀ : k₀.reportContainerMetrics = false)
include h₁ h₀

theorem parseFields_gated {σ : Type} (accumulate : String → Rat → σ → σ) (convert : Rat → Rat)
    (data : Dict Rat) {fields : List (String × String)}
    (hnames : ∀ p ∈ fields, p.2 ∈ metricTypesUnits.keys) :
    ∀ {d₁ d₀ : Dims} (acc : σ), SameBesidesUnit d₁ d₀ →
      Gated (k₁.parseFields accumulate convert data fields d₁ acc)
        (k₀.parseFields accumulate convert data fields d₀ acc)
        fun r₁ r₀ => SameBesidesUnit r₁.1 r₀.1 ∧ r₁.2 = r₀.2 := by
  induction fields with
  | nil => exact fun _ hd => gated_pure ⟨hd, rfl⟩
  | cons p rest ih =>
    intro d₁ d₀ acc hd
    rw [parseFields, parseFields]
    cases data.get? p.1 with
    | none => exact ih (fun q hq => hnames q (List.mem_cons_of_mem _ hq)) acc hd
    | some raw =>
      simp only [h₁, h₀, ↓reduceIte, Bool.false_eq_true]
      refine gated_bind (gated_extra (sendCatalog_exec (hnames p (List.mem_cons_self _ _)) _ _ _)
        (catalogSamples_containerLevel _ _ _) (fun _ => exec_pure _ _) (hd.insert_unit _)) ?_
      exact fun _ _ hd' => ih (fun q hq => hnames q (List.mem_cons_of_mem _ hq)) _ hd'

theorem memoryBlock_gated (s : ContainerStats) {d₁ d₀ : Dims} (hd : SameBesidesUnit d₁ d₀)
    (podKey : Option String) (podMetrics : Dict (Dict Rat)) :
    Gated (k₁.memoryBlock s d₁ podKey podMetrics) (k₀.memoryBlock s d₀ podKey podMetrics)
      fun r₁ r₀ => SameBesidesUnit r₁.1 r₀.1 ∧ r₁.2 = r₀.2 := by
  unfold memoryBlock parseMemory
  refine gated_ite (fun _ => gated_bind (gated_ofExcept_same _) ?_) fun _ => gated_pure ⟨hd, rfl⟩
  rintro memory _ rfl
  exact gated_ite (fun _ => parseFields_gated h₁ h₀ _ _ _ memoryMetrics_names _ hd)
    fun _ => gated_pure ⟨hd, rfl⟩

theorem cpuBlock_gated (s : ContainerStats) {d₁ d₀ : Dims} (hd : SameBesidesUnit d₁ d₀)
    (podKey : Option String) (podMetrics : Dict (Dict Rat)) :
    Gated (k₁.cpuBlock s d₁ podKey podMetrics) (k₀.cpuBlock s d₀ podKey podMetrics)
      fun r₁ r₀ => SameBesidesUnit r₁.1 r₀.1 ∧ r₁.2 = r₀.2 := by
  unfold cpuBlock parseCpu
  refine gated_ite (fun _ => gated_bind (gated_ofExcept_same _) ?_) fun _ => gated_pure ⟨hd, rfl⟩
  rintro cpu _ rfl
  exact parseFields_gated h₁ h₀ _ _ _ cpuMetrics_names _ hd

theorem filesystemBlock_gated (s : ContainerStats) (d₁ d₀ : Dims) :
    Gated (k₁.filesystemBlock s d₁) (k₀.filesystemBlock s d₀) fun _ _ => True := by
  unfold filesystemBlock
  refine gated_ite (fun _ => ?_) fun _ => gated_pure trivial
  split
  · refine gated_ite (fun _ => ?_) fun _ => gated_pure trivial
    refine gated_extra (fun out => by rw [parseFilesystem_exec, h₁, if_pos rfl]) ?_
      (fun out => by rw [parseFilesystem_exec, h₀, if_neg Bool.false_ne_true, List.append_nil])
      trivial
    simp only [List.mem_flatMap, fieldSamples]
    rintro s ⟨_, -, _, -, hs⟩
    exact catalogSamples_containerLevel _ _ _ s hs
  · exact gated_pure trivial

theorem networkBlock_gated (s : ContainerStats) {d₁ d₀ : Dims} (hd : SameBesidesUnit d₁ d₀)
    (podKey : Option String) (podNetworkMetrics : Dict (Dict (Dict Rat))) :
    Gated (k₁.networkBlock s d₁ podKey podNetworkMetrics) (k₀.networkBlock s d₀ podKey podNetworkMetrics)
      (· = ·) := by
  unfold networkBlock parseNetwork
  refine gated_ite (fun _ => gated_bind (gated_ofExcept_same _) ?_) fun _ => gated_pure rfl
  rintro network _ rfl
  refine gated_foldlM (fun _ _ i _ hs => ?_) rfl
  subst hs
  refine gated_bind (parseFields_gated h₁ h₀ _ _ _ networkMetrics_names _ (hd.insert _ _)) ?_
  rintro ⟨_, _⟩ ⟨_, _⟩ ⟨-, rfl⟩
  exact gated_pure rfl

theorem processContainer_gated (S : Dict ContainerSpec) (dims : Dims) (D : Dict Dims)
    {st₁ st₀ : ContainersState} (hst : SameRecords st₁.1 st₀.1 ∧ st₁.2 = st₀.2)
    (e : String × List ContainerStats) :
    Gated (k₁.processContainer S dims D st₁ e) (k₀.processContainer S dims D st₀ e)
      fun st₁ st₀ => SameRecords st₁.1 st₀.1 ∧ st₁.2 = st₀.2 := by
  obtain ⟨K, snaps⟩ := e
  obtain ⟨M₁, acc₁⟩ := st₁
  obtain ⟨M₀, acc₀⟩ := st₀
  obtain ⟨hM, rfl⟩ := hst
  obtain ⟨pm, pnm⟩ := acc₁
  refine gated_bind (gated_ofExcept_same _) ?_
  rintro spec _ rfl
  refine gated_bind (gated_ofExcept (getContainerDimensions_sameRecords hM K dims spec D)) ?_
  rintro ⟨podKey, cd₁⟩ ⟨_, cd₀⟩ ⟨rfl, hcd⟩
  refine gated_bind (gated_ofExcept_same _) ?_
  rintro snap _ rfl
  refine gated_bind (memoryBlock_gated h₁ h₀ snap hcd podKey pm) ?_
  rintro ⟨cd₁', pm₁⟩ ⟨cd₀', _⟩ ⟨hcd', rfl⟩
  refine gated_bind (filesystemBlock_gated h₁ h₀ snap cd₁' cd₀') fun _ _ _ => ?_
  refine gated_bind (networkBlock_gated h₁ h₀ snap hcd' podKey pnm) ?_
  rintro pnm₁ _ rfl
  refine gated_bind (cpuBlock_gated h₁ h₀ snap hcd' podKey pm₁) ?_
  rintro ⟨cd₁'', pm₂⟩ ⟨cd₀'', _⟩ ⟨hcd'', rfl⟩
  refine gated_pure ⟨?_, rfl⟩
  dsimp only
  rw [hM.contains_eq]
  split
  exacts [hM.insert _ hcd'', hM]

theorem processContainers_gated (cadvisorSpec : Except Err (Dict ContainerSpec))
    (cadvisorMetrics : Except Err (Dict (List ContainerStats))) (dims : Dims) (M D : Dict Dims) :
    Gated (k₁.processContainers cadvisorSpec cadvisorMetrics dims M D)
      (k₀.processContainers cadvisorSpec cadvisorMetrics dims M D) fun _ _ => True := by
  unfold processContainers
  rcases cadvisorSpec with _ | S <;> rcases cadvisorMetrics with _ | T
  case ok.ok =>
    have hloop : Gated (T.items.foldlM (k₁.processContainer S dims D) (M, Dict.empty, Dict.empty))
        (T.items.foldlM (k₀.processContainer S dims D) (M, Dict.empty, Dict.empty))
        fun st₁ st₀ => SameRecords st₁.1 st₀.1 ∧ st₁.2 = st₀.2 := by
      refine gated_foldlM (fun _ _ e _ hst => ?_) ⟨SameRecords.refl M, rfl⟩
      exact processContainer_gated h₁ h₀ S dims D hst e
    refine gated_bind hloop ?_
    rintro ⟨_, pm, pnm⟩ ⟨_, _⟩ ⟨-, rfl⟩
    have hD : Records (Extends [] Dict.empty) D :=
      fun _ _ _ => ⟨fun x hx => absurd hx (List.not_mem_nil x), fun _ _ _ hv => by cases hv⟩
    exact gated_refl (fun _ => trivial)
      (emits_bind (sendPodMetrics_tagged pm hD) fun _ hD' => sendNetworkPodMetrics_tagged pnm hD')
  all_goals exact gated_pure trivial

end Runs

/-- Container metrics are a pure addition to `_process_containers`: for every pair of documents,
every pair of maps and every earlier samples, the run with `report_container_metrics` set returns
or raises exactly as the run without it, and its samples are the other run's samples, in the same
order, with container-level samples inserted. So the pod-level samples never depend on the flag. -/
theorem processContainers_reportGated {k₁ k₀ : Kubernetes} (h₁ : k₁.reportContainerMetrics = true)
    (h₀ : k₀.reportContainerMetrics = false) (cadvisorSpec : Except Err (Dict ContainerSpec))
    (cadvisorMetrics : Except Err (Dict (List ContainerStats))) (dims : Dims) (M D : Dict Dims)
    (out : List Sample) :
    (exec (k₁.processContainers cadvisorSpec cadvisorMetrics dims M D) out).1 =
        (exec (k₀.processContainers cadvisorSpec cadvisorMetrics dims M D) out).1 ∧
      ∃ n₁ n₀, (exec (k₁.processContainers cadvisorSpec cadvisorMetrics dims M D) out).2 = out ++ n₁ ∧
        (exec (k₀.processContainers cadvisorSpec cadvisorMetrics dims M D) out).2 = out ++ n₀ ∧
        AddsContainerSamples n₁ n₀ := by
  obtain ⟨r₁, n₁, r₀, n₀, e₁, e₀, hn, hr⟩ :=
    processContainers_gated h₁ h₀ cadvisorSpec cadvisorMetrics dims M D
  refine ⟨?_, n₁, n₀, by rw [e₁], by rw [e₀], hn⟩
  rw [e₁, e₀]
  cases r₁ <;> cases r₀ <;> simp only [ExceptRel] at hr
  · rw [hr]
  · rfl

theorem processContainers_reportGated_started :
    reportingCheck.reportContainerMetrics = true ∧ plainCheck.reportContainerMetrics = false ∧
      (exec (reportingCheck.processContainers (.ok startedSpecs) (.ok startedStats) Dict.empty
          startedMaps.1 startedMaps.2) []).1 =
        (exec (plainCheck.processContainers (.ok startedSpecs) (.ok startedStats) Dict.empty
          startedMaps.1 startedMaps.2) []).1 ∧
      ∃ n₁ n₀, (exec (reportingCheck.processContainers (.ok startedSpecs) (.ok startedStats)
          Dict.empty startedMaps.1 startedMaps.2) []).2 = [] ++ n₁ ∧
        (exec (plainCheck.processContainers (.ok startedSpecs) (.ok startedStats) Dict.empty
          startedMaps.1 startedMaps.2) []).2 = [] ++ n₀ ∧
        AddsContainerSamples n₁ n₀ :=
  ⟨rfl, rfl, processContainers_reportGated rfl rfl _ _ _ _ _ []⟩

/-! ## Whole cycles

`_report_container_limits` looks a pod's container names up in its statuses outside any `try`,
so with the flag a cycle can raise where it returns without it. Over whole cycles the two runs
are therefore compared only when the run with the flag returns. -/

/-- A run `x₁` with the flag and a run `x₀` without it, compared when `x₁` returns: then `x₀`
returns too, with a result related by `R`, and the samples `x₁` adds are those `x₀` adds with
container-level samples inserted. -/
def GatedIfOk {α β : Type} (x₁ : CheckM α) (x₀ : CheckM β) (R : α → β → Prop) : Prop :=
  ∀ out₁ out₀ a o₁, exec x₁ out₁ = (.ok a, o₁) →
    ∃ b n₁ n₀, o₁ = out₁ ++ n₁ ∧ exec x₀ out₀ = (.ok b, out₀ ++ n₀) ∧ R a b ∧
      AddsContainerSamples n₁ n₀

section GatedIfOk

variable {α β γ δ : Type} {x₁ : CheckM α} {x₀ : CheckM β} {R : α → β → Prop}

theorem Gated.ifOk (h : Gated x₁ x₀ R) : GatedIfOk x₁ x₀ R := by
  obtain ⟨r₁, n₁, r₀, n₀, e₁, e₀, hn, hr⟩ := h
  intro out₁ out₀ a o₁ he
  obtain ⟨rfl, rfl⟩ := Prod.mk.inj ((e₁ out₁).symm.trans he)
  cases r₀ with
  | error => exact (hr : False).elim
  | ok b => exact ⟨b, n₁, n₀, rfl, e₀ out₀, hr, hn⟩

theorem gatedIfOk_bind {f₁ : α → CheckM γ} {f₀ : β → CheckM δ} {S : γ → δ → Prop}
    (hx : GatedIfOk x₁ x₀ R) (hf : ∀ a b, R a b → GatedIfOk (f₁ a) (f₀ b) S) :
    GatedIfOk (x₁ >>= f₁) (x₀ >>= f₀) S := by
  intro out₁ out₀ c o he
  obtain ⟨a, o', ha, hc⟩ := exec_bind_ok.mp he
  obtain ⟨b, n₁, n₀, rfl, hb, hab, hn⟩ := hx out₁ out₀ a o' ha
  obtain ⟨d, m₁, m₀, rfl, hd, hcd, hm⟩ := hf a b hab _ (out₀ ++ n₀) c o hc
  exact ⟨d, n₁ ++ m₁, n₀ ++ m₀, List.append_assoc _ _ _,
    by rw [exec_bind_of_ok hb, hd, List.append_assoc], hcd, hn.append hm⟩

theorem gatedIfOk_foldlM {σ τ : Type} {f₁ : σ → γ → CheckM σ} {f₀ : τ → γ → CheckM τ}
    {xs : List γ} {I : σ → τ → Prop}
    (h : ∀ s₁ s₀ b, b ∈ xs → I s₁ s₀ → GatedIfOk (f₁ s₁ b) (f₀ s₀ b) I) :
    ∀ {s₁ s₀}, I s₁ s₀ → GatedIfOk (xs.foldlM f₁ s₁) (xs.foldlM f₀ s₀) I := by
  induction xs with
  | nil => exact fun hs => (gated_pure hs).ifOk
  | cons b rest ih =>
    intro s₁ s₀ hs
    rw [List.foldlM_cons, List.foldlM_cons]
    exact gatedIfOk_bind (h s₁ s₀ b (List.mem_cons_self _ _) hs)
      fun _ _ hs' => ih (fun s₁ s₀ b hb => h s₁ s₀ b (List.mem_cons_of_mem _ hb)) hs'

end GatedIfOk

theorem statusSamples_containerLevel (k : Kubernetes) (podDims : Dims) (cs : ContainerStatus) :
    ∀ s ∈ k.statusSamples podDims cs, ContainerLevel s := by
  unfold statusSamples
  split
  · simp only [List.mem_cons, List.mem_singleton, List.not_mem_nil, or_false]
    rintro _ (rfl | rfl)
    exacts [⟨"ready_status".toList, rfl⟩, ⟨"restart_count".toList, rfl⟩]
  · exact fun _ h => absurd h (List.not_mem_nil _)

theorem LimitSample.containerLevel {M : Dict Dims} {s : Sample} (h : LimitSample M s) :
    ContainerLevel s := by
  obtain ⟨hn, -, -⟩ := h
  simp only [limitNames, List.mem_cons, List.mem_singleton, List.not_mem_nil, or_false] at hn
  rcases hn with h | h | h | h <;> rw [ContainerLevel, h]
  exacts [⟨"cpu.limit".toList, rfl⟩, ⟨"memory.limit_bytes".toList, rfl⟩,
    ⟨"request.cpu".toList, rfl⟩, ⟨"request.memory_bytes".toList, rfl⟩]

theorem processPod_gatedIfOk (k : Kubernetes) (hk : k.reportContainerMetrics = true)
    (L : List String) (dims : Dims) (st : Dict Dims × Dict Dims) (pod : Pod) :
    GatedIfOk (k.processPod L dims st pod)
      ({ k with reportContainerMetrics := false }.processPod L dims st pod) (· = ·) := by
  intro out₁ out₀ a o₁ he
  cases hw : walkedStatuses pod with
  | nil =>
    rw [processPod_exec_skipped k L dims st hw] at he
    obtain ⟨⟨⟩, rfl⟩ := Prod.mk.inj he
    exact ⟨st, [], [], (List.append_nil _).symm,
      by rw [processPod_exec_skipped _ L dims st hw, List.append_nil], rfl, .nil⟩
  | cons s ss =>
    obtain ⟨c, cs, hc, hs⟩ := walkedStatuses_eq_cons hw
    obtain ⟨r, nL, hL, hLs, -⟩ := reportContainerLimits_emits k (c :: cs)
      (st.1.insertAll (k.containerRecords L dims pod))
      (Dict.empty.insertAll ((s :: ss).map fun cs => (cs.name, recordedId cs)))
    rw [processPod_exec_walked k L dims st hc hs] at he
    simp only [hk, ↓reduceIte, hL] at he
    cases r with
    | error => cases he
    | ok u =>
      obtain ⟨⟨⟩, rfl⟩ := Prod.mk.inj he
      have hst : ∀ t ∈ (s :: ss).flatMap (k.statusSamples (k.podDimsOf L dims pod.metadata)),
          ContainerLevel t := by
        simp only [List.mem_flatMap]
        rintro t ⟨x, -, ht⟩
        exact statusSamples_containerLevel k _ x t ht
      refine ⟨_, (s :: ss).flatMap (k.statusSamples (k.podDimsOf L dims pod.metadata)) ++ nL ++
        k.podSamples L dims pod, k.podSamples L dims pod,
        by simp only [List.append_assoc], ?_, rfl, ?_⟩
      · rw [processPod_exec_walked _ L dims st hc hs, flatMap_statusSamples_reportOff rfl,
          List.append_nil]
        rfl
      · exact ((AddsContainerSamples.of_containerLevel hst).append
          (.of_containerLevel fun t ht => (hLs t ht).containerLevel)).append (.refl _)

theorem processPods_gatedIfOk (k : Kubernetes) (hk : k.reportContainerMetrics = true)
    (pods : List Pod) (L : List String) (dims : Dims) (M D : Dict Dims) :
    GatedIfOk (k.processPods pods L dims M D)
      ({ k with reportContainerMetrics := false }.processPods pods L dims M D) (· = ·) :=
  gatedIfOk_foldlM (fun st _ pod _ h => by subst h; exact processPod_gatedIfOk k hk L dims st pod) rfl

/-- Container metrics are a pure addition to every cycle that returns: for every configuration
with `report_container_metrics` set, every outcome of the four fetches, every instance dimensions
and every earlier samples, when the cycle returns, the same cycle with the flag unset returns
too, and the first cycle's samples are the second's, in the same order, with container-level
samples inserted. -/
theorem check_reportGated (k : Kubernetes) (hk : k.reportContainerMetrics = true) (e : Endpoints)
    (kubernetesLabels : Option (List String)) (setDimensions : Dims) (out : List Sample)
    (hok : (exec (k.check e kubernetesLabels setDimensions) out).1 = .ok ()) :
    (exec ({ k with reportContainerMetrics := false }.check e kubernetesLabels setDimensions) out).1 =
        .ok () ∧
      ∃ n₁ n₀, (exec (k.check e kubernetesLabels setDimensions) out).2 = out ++ n₁ ∧
        (exec ({ k with reportContainerMetrics := false }.check e kubernetesLabels setDimensions)
          out).2 = out ++ n₀ ∧ AddsContainerSamples n₁ n₀ := by
  have hg : GatedIfOk (k.check e kubernetesLabels setDimensions)
      ({ k with reportContainerMetrics := false }.check e kubernetesLabels setDimensions)
      fun _ _ => True := by
    obtain ⟨healthz, _ | pods, spec, stats⟩ := e <;> unfold check
    all_goals
      refine gatedIfOk_bind (gated_ofExcept_same _).ifOk ?_
      rintro dims _ rfl
      refine gatedIfOk_bind (show Gated _ _ fun (_ _ : Unit) => True from
        gated_refl (fun _ => trivial) (emits_gauge trivial : Emits (fun _ => True) _ _)).ifOk
        fun _ _ _ => ?_
    · exact (gated_pure trivial).ifOk
    · refine gatedIfOk_bind (processPods_gatedIfOk k hk _ _ _ _ _) ?_
      rintro ⟨M, D⟩ _ rfl
      exact (processContainers_gated hk rfl _ _ _ M D).ifOk
  obtain ⟨_, n₁, n₀, h₁, h₀, -, hn⟩ := hg out out () _ (Prod.ext hok rfl)
  exact ⟨by rw [h₀], n₁, n₀, h₁, by rw [h₀], hn⟩

theorem check_reportGated_started :
    reportingCheck.reportContainerMetrics = true ∧
      (exec (reportingCheck.check startedCycle none hostDims) []).1 = .ok () ∧
      (exec ({ reportingCheck with reportContainerMetrics := false }.check startedCycle none
          hostDims) []).1 = .ok () ∧
      ∃ n₁ n₀, (exec (reportingCheck.check startedCycle none hostDims) []).2 = [] ++ n₁ ∧
        (exec ({ reportingCheck with reportContainerMetrics := false }.check startedCycle none
          hostDims) []).2 = [] ++ n₀ ∧ AddsContainerSamples n₁ n₀ :=
  have hok : (exec (reportingCheck.check startedCycle none hostDims) []).1 = .ok () := rfl
  ⟨rfl, hok, check_reportGated reportingCheck rfl startedCycle none hostDims [] hok⟩

end Kubernetes
end MonascaAgent