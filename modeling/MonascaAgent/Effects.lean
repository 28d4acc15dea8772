import MonascaAgent.Schema

/-!
# MonascaAgent.Effects

The effects of the check's methods: a method returns or raises, and every sample it handed to
`self.gauge` or `self.rate` before that stays emitted. `CheckM` is `ExceptT` over a state that
is the list of samples emitted so far.

* `exec x out` — the outcome of `x` and the samples after it, when `out` were emitted before.
* `exec_bind_ok` — the bind inversion every later proof peels computations with.
* `foldlM_inv` — a Python `for` loop whose body keeps an invariant keeps it over the loop.
* `Emits P x Q` — `x` appends the same samples after any earlier ones, each satisfying `P`, on
  every path, and what it returns satisfies `Q`; the `emits_*` lemmas follow the shape of the
  code.
-/

namespace MonascaAgent

/-- A method of the check. -/
abbrev CheckM := ExceptT Err (StateM (List Sample))

namespace CheckM

variable {α β : Type}

def exec (x : CheckM α) (out : List Sample) : Except Err α × List Sample := x.run.run out

def emit (s : Sample) : CheckM Unit := modify (· ++ [s])

def gauge (name : String) (value : Option Rat) (dims : Dims) (hostname : Option String) :
    CheckM Unit :=
  emit ⟨.gauge, name, value, dims, hostname⟩

def rate (name : String) (value : Option Rat) (dims : Dims) (hostname : Option String) :
    CheckM Unit :=
  emit ⟨.rate, name, value, dims, hostname⟩

/-- `try: x except KeyError: log(...)`; any other exception propagates. -/
def catchKeyError (x : CheckM Unit) : CheckM Unit :=
  ExceptT.mk fun out =>
    match x.run.run out with
    | (.error (.keyError _), o) => (.ok (), o)
    | r => r

@[simp] theorem exec_pure (a : α) (out : List Sample) : exec (pure a) out = (.ok a, out) := rfl

@[simp] theorem exec_throw (e : Err) (out : List Sample) :
    exec (throw e : CheckM α) out = (.error e, out) := rfl

theorem exec_bind (x : CheckM α) (f : α → CheckM β) (out : List Sample) :
    exec (x >>= f) out =
      match exec x out with
      | (.ok a, o) => exec (f a) o
      | (.error e, o) => (.error e, o) := by
  simp only [exec, ExceptT.run_bind, StateT.run_bind]
  rcases x.run.run out with ⟨_ | _, _⟩ <;> rfl

@[simp] theorem exec_map (f : α → β) (x : CheckM α) (out : List Sample) :
    exec (f <$> x) out =
      match exec x out with
      | (.ok a, o) => (.ok (f a), o)
      | (.error e, o) => (.error e, o) := by
  simp only [exec, ExceptT.run_map, StateT.run_map]
  rcases x.run.run out with ⟨_ | _, _⟩ <;> rfl

@[simp] theorem exec_emit (s : Sample) (out : List Sample) :
    exec (emit s) out = (.ok (), out ++ [s]) := rfl

@[simp] theorem exec_gauge (name : String) (value : Option Rat) (dims : Dims)
    (hostname : Option String) (out : List Sample) :
    exec (gauge name value dims hostname) out =
      (.ok (), out ++ [⟨.gauge, name, value, dims, hostname⟩]) := rfl

@[simp] theorem exec_rate (name : String) (value : Option Rat) (dims : Dims)
    (hostname : Option String) (out : List Sample) :
    exec (rate name value dims hostname) out =
      (.ok (), out ++ [⟨.rate, name, value, dims, hostname⟩]) := rfl

@[simp] theorem exec_ofExcept (x : Except Err α) (out : List Sample) :
    exec (MonadExcept.ofExcept x : CheckM α) out = (x, out) := by
  cases x <;> rfl

theorem exec_bind_ok {x : CheckM α} {f : α → CheckM β} {out out' : List Sample} {b : β} :
    exec (x >>= f) out = (.ok b, out') ↔
      ∃ a o, exec x out = (.ok a, o) ∧ exec (f a) o = (.ok b, out') := by
  rw [exec_bind]
  rcases exec x out with ⟨_ | a, o⟩ <;> simp [and_assoc]

theorem exec_bind_of_ok {x : CheckM α} {f : α → CheckM β} {out o : List Sample} {a : α}
    (h : exec x out = (.ok a, o)) : exec (x >>= f) out = exec (f a) o := by
  rw [exec_bind, h]

theorem exec_bind_of_error {x : CheckM α} {f : α → CheckM β} {out o : List Sample} {e : Err}
    (h : exec x out = (.error e, o)) : exec (x >>= f) out = (.error e, o) := by
  rw [exec_bind, h]

theorem exec_catchKeyError (x : CheckM Unit) (out : List Sample) :
    exec (catchKeyError x) out =
      match exec x out with
      | (.error (.keyError _), o) => (.ok (), o)
      | r => r := rfl

/-! ## Loops -/

theorem foldlM_inv {σ : Type} {f : σ → β → CheckM σ} {xs : List β} (Inv : σ → Prop)
    (step : ∀ s b out s' out', b ∈ xs → Inv s → exec (f s b) out = (.ok s', out') → Inv s') :
    ∀ {s out s' out'}, Inv s → exec (xs.foldlM f s) out = (.ok s', out') → Inv s' := by
  induction xs with
  | nil => intro s out s' out' hs h; simp only [List.foldlM_nil, exec_pure] at h; cases h; exact hs
  | cons b rest ih =>
    intro s out s' out' hs h
    obtain ⟨a, o, h1, h2⟩ := exec_bind_ok.mp h
    exact ih (fun s b out s' out' hb => step s b out s' out' (List.mem_cons_of_mem _ hb))
      (step s b out a o (List.mem_cons_self _ _) hs h1) h2

/-! ## What a method emits -/

/-- `x` does not read the samples emitted before it: after any of them it ends in the same outcome
`r` having appended the same samples `new`. Each of these satisfies `P`, and what `x` returns
satisfies `Q`. -/
def Emits (P : Sample → Prop) (x : CheckM α) (Q : α → Prop) : Prop :=
  ∃ r new, (∀ out, exec x out = (r, out ++ new)) ∧ (∀ s ∈ new, P s) ∧ ∀ a, r = .ok a → Q a

variable {P : Sample → Prop}

theorem Emits.exec {Q : α → Prop} {x : CheckM α} (h : Emits P x Q) (out : List Sample) :
    ∃ new, (CheckM.exec x out).2 = out ++ new ∧ ∀ s ∈ new, P s := by
  obtain ⟨r, new, hx, hp, -⟩ := h
  exact ⟨new, by rw [hx], hp⟩

theorem Emits.mono {P' : Sample → Prop} {Q Q' : α → Prop} {x : CheckM α} (h : Emits P x Q)
    (hp : ∀ s, P s → P' s) (hq : ∀ a, Q a → Q' a) : Emits P' x Q' := by
  obtain ⟨r, new, hx, hs, ha⟩ := h
  exact ⟨r, new, hx, fun s h => hp s (hs s h), fun a h => hq a (ha a h)⟩

theorem emits_pure {Q : α → Prop} {a : α} (h : Q a) : Emits P (pure a) Q :=
  ⟨.ok a, [], fun _ => by simp, by simp, fun _ hb => by cases hb; exact h⟩

theorem emits_ofExcept {Q : α → Prop} {e : Except Err α} (h : ∀ a, e = .ok a → Q a) :
    Emits P (MonadExcept.ofExcept e) Q :=
  ⟨e, [], fun _ => by simp, by simp, h⟩

theorem emits_gauge {name : String} {value : Option Rat} {dims : Dims} {hostname : Option String}
    (h : P ⟨.gauge, name, value, dims, hostname⟩) :
    Emits P (gauge name value dims hostname) fun _ => True :=
  ⟨.ok (), [⟨.gauge, name, value, dims, hostname⟩], fun _ => rfl, by simpa using h, fun _ _ => trivial⟩

theorem emits_rate {name : String} {value : Option Rat} {dims : Dims} {hostname : Option String}
    (h : P ⟨.rate, name, value, dims, hostname⟩) :
    Emits P (rate name value dims hostname) fun _ => True :=
  ⟨.ok (), [⟨.rate, name, value, dims, hostname⟩], fun _ => rfl, by simpa using h, fun _ _ => trivial⟩

theorem emits_bind {Q : α → Prop} {R : β → Prop} {x : CheckM α} {f : α → CheckM β}
    (hx : Emits P x Q) (hf : ∀ a, Q a → Emits P (f a) R) : Emits P (x >>= f) R := by
  obtain ⟨r, n₁, hx, hp₁, hq₁⟩ := hx
  cases r with
  | error e => exact ⟨.error e, n₁, fun out => by rw [exec_bind, hx], hp₁, fun _ h => by cases h⟩
  | ok a =>
    obtain ⟨r', n₂, hf, hp₂, hq₂⟩ := hf a (hq₁ a rfl)
    refine ⟨r', n₁ ++ n₂, fun out => by rw [exec_bind, hx]; exact (hf _).trans (by rw [List.append_assoc]),
      fun s hs => ?_, hq₂⟩
    rcases List.mem_append.mp hs with hs | hs
    exacts [hp₁ s hs, hp₂ s hs]

theorem emits_pure_bind {R : β → Prop} {a : α} {f : α → CheckM β} (h : Emits P (f a) R) :
    Emits P (pure a >>= f) R := by
  rwa [pure_bind]

theorem emits_ite {Q : α → Prop} {c : Prop} [Decidable c] {x y : CheckM α}
    (hx : c → Emits P x Q) (hy : ¬c → Emits P y Q) : Emits P (if c then x else y) Q := by
  split_ifs with h
  exacts [hx h, hy h]

theorem emits_catchKeyError {x : CheckM Unit} (h : Emits P x fun _ => True) :
    Emits P (catchKeyError x) fun _ => True := by
  obtain ⟨r, n, hx, hp, -⟩ := h
  by_cases hk : ∃ key, r = .error (.keyError key)
  · obtain ⟨key, rfl⟩ := hk
    exact ⟨.ok (), n, fun out => by rw [exec_catchKeyError, hx], hp, fun _ _ => trivial⟩
  · refine ⟨r, n, fun out => ?_, hp, fun _ _ => trivial⟩
    rw [exec_catchKeyError, hx]
    split
    · exact absurd ⟨_, (Prod.mk.inj ‹_›).1⟩ hk
    · rfl

theorem emits_foldlM {σ : Type} {f : σ → β → CheckM σ} {xs : List β} {I : σ → Prop}
    (h : ∀ s b, b ∈ xs → I s → Emits P (f s b) I) : ∀ {s}, I s → Emits P (xs.foldlM f s) I := by
  induction xs with
  | nil => exact fun hs => emits_pure hs
  | cons b rest ih =>
    intro s hs
    rw [List.foldlM_cons]
    exact emits_bind (h s b (List.mem_cons_self _ _) hs)
      fun s' hs' => ih (fun s b hb => h s b (List.mem_cons_of_mem _ hb)) hs'

theorem emits_forM {f : β → CheckM Unit} {xs : List β} (h : ∀ b ∈ xs, Emits P (f b) fun _ => True) :
    Emits P (xs.forM f) fun _ => True := by
  induction xs with
  | nil => exact emits_pure trivial
  | cons b rest ih =>
    rw [List.forM_cons']
    exact emits_bind (h b (List.mem_cons_self _ _))
      fun _ _ => ih fun b hb => h b (List.mem_cons_of_mem _ hb)

end CheckM

end MonascaAgent
