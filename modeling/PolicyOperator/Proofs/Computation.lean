import PolicyOperator.Platform
import Mathlib.Order.Defs.Unbundled

/-!
# How computations end

`Ends x s done failed`: the computation `x`, started in `s`, either succeeds with an answer and a
state in `done`, or fails with an error and a state in `failed`. What a failed computation wrote
stays written, so both halves speak about the state.

* One rule for each way to build a computation (`ends_bind`, `ends_attempt`, `ends_onCluster`, …)
  reduces `Ends` to the operations of the stores.
* `Keeps R x`: whatever happens, `x` takes a state to one that `R` relates to it. For a preorder
  `R` it is closed under sequencing and loops (`Keeps.bind`, `Keeps.forM`); frames and invariants
  are both of this form.
-/

namespace PolicyOperator

variable {ε σ α β : Type}

/-- The computation succeeds in `done` or fails in `failed`. -/
def Ends (x : ExceptT ε (StateM σ) α) (s : σ) (done : α → σ → Prop)
    (failed : ε → σ → Prop) : Prop :=
  match x s with
  | (.ok a, s') => done a s'
  | (.error e, s') => failed e s'

section
variable {x : ExceptT ε (StateM σ) α} {s : σ} {done done' : α → σ → Prop}
  {failed failed' : ε → σ → Prop}

theorem Ends.ok (h : Ends x s done failed) {a : α} {s' : σ} (hx : x s = (.ok a, s')) :
    done a s' := by
  simpa only [Ends, hx] using h

theorem Ends.error (h : Ends x s done failed) {e : ε} {s' : σ} (hx : x s = (.error e, s')) :
    failed e s' := by
  simpa only [Ends, hx] using h

theorem ends_of (hok : ∀ a s', x s = (.ok a, s') → done a s')
    (herror : ∀ e s', x s = (.error e, s') → failed e s') : Ends x s done failed := by
  rcases hx : x s with ⟨a | a, s'⟩
  · simpa only [Ends, hx] using herror a s' hx
  · simpa only [Ends, hx] using hok a s' hx

theorem Ends.mono (h : Ends x s done failed) (hd : ∀ a s', done a s' → done' a s')
    (hf : ∀ e s', failed e s' → failed' e s') : Ends x s done' failed' :=
  ends_of (fun a s' hx => hd a s' (h.ok hx)) fun e s' hx => hf e s' (h.error hx)

theorem Ends.and (h : Ends x s done failed) (h' : Ends x s done' failed') :
    Ends x s (fun a s' => done a s' ∧ done' a s') fun e s' => failed e s' ∧ failed' e s' :=
  ends_of (fun _ _ hx => ⟨h.ok hx, h'.ok hx⟩) fun _ _ hx => ⟨h.error hx, h'.error hx⟩

theorem ends_true : Ends x s (fun _ _ => True) fun _ _ => True :=
  ends_of (fun _ _ _ => trivial) fun _ _ _ => trivial

/-- A computation that does not fail has an answer. -/
theorem Ends.exists_ok (h : Ends x s done fun _ _ => False) :
    ∃ a s', x s = (.ok a, s') ∧ done a s' := by
  rcases hx : x s with ⟨a | a, s'⟩
  · exact (h.error hx).elim
  · exact ⟨a, s', rfl, h.ok hx⟩

/-- What holds of the answer and the state either way holds of the run. -/
theorem Ends.run {P : Except ε α → σ → Prop}
    (h : Ends x s (fun a => P (.ok a)) fun e => P (.error e)) : P (x s).1 (x s).2 := by
  rcases hx : x s with ⟨a | a, s'⟩
  · exact h.error hx
  · exact h.ok hx

/-- The state that a computation leaves, whatever its answer. -/
theorem Ends.state {P : σ → Prop} (h : Ends x s (fun _ => P) fun _ => P) : P (x s).2 := by
  rcases hx : x s with ⟨a | a, s'⟩
  · exact h.error hx
  · exact h.ok hx

end

/-! ## Plain answers -/

theorem bind_eq_ok_iff {x : Except ε α} {f : α → Except ε β} {b : β} :
    (x >>= f) = .ok b ↔ ∃ a, x = .ok a ∧ f a = .ok b := by
  cases x <;> simp [bind, Except.bind]

theorem throw_ne_ok {e : ε} {a : α} : (throw e : Except ε α) ≠ .ok a := nofun

/-! ## The rules -/

section
variable {s : σ} {done : α → σ → Prop} {failed : ε → σ → Prop}

@[simp] theorem ends_pure {a : α} :
    Ends (pure a : ExceptT ε (StateM σ) α) s done failed ↔ done a s := Iff.rfl

@[simp] theorem ends_throw {e : ε} :
    Ends (throw e : ExceptT ε (StateM σ) α) s done failed ↔ failed e s := Iff.rfl

/-- What a sequence of two computations comes to. -/
theorem run_bind (x : ExceptT ε (StateM σ) β) (f : β → ExceptT ε (StateM σ) α) (s : σ) :
    (x >>= f) s = match x s with
      | (.ok b, s') => f b s'
      | (.error e, s') => (.error e, s') := by
  simp only [bind, ExceptT.bind, ExceptT.mk, StateT.bind, ExceptT.bindCont]
  rcases x s with ⟨b | b, s'⟩ <;> rfl

theorem run_bind_of_error {x : ExceptT ε (StateM σ) β} {s s' : σ} {e : ε}
    (h : x s = (.error e, s')) (f : β → ExceptT ε (StateM σ) α) :
    (x >>= f) s = (.error e, s') := by
  rw [run_bind, h]

theorem run_bind_of_ok {x : ExceptT ε (StateM σ) β} {s s' : σ} {b : β}
    (h : x s = (.ok b, s')) (f : β → ExceptT ε (StateM σ) α) : (x >>= f) s = f b s' := by
  rw [run_bind, h]

theorem state_bind_pure (x : ExceptT ε (StateM σ) β) (f : β → α) (s : σ) :
    ((x >>= fun b => pure (f b)) s).2 = (x s).2 := by
  rw [run_bind]
  rcases x s with ⟨b | b, s'⟩ <;> rfl

@[simp] theorem ends_bind {x : ExceptT ε (StateM σ) β} {f : β → ExceptT ε (StateM σ) α} :
    Ends (x >>= f) s done failed ↔ Ends x s (fun b s' => Ends (f b) s' done failed) failed := by
  simp only [Ends, run_bind]
  rcases x s with ⟨b | b, s'⟩ <;> rfl

theorem run_map (f : β → α) (x : ExceptT ε (StateM σ) β) (s : σ) :
    (f <$> x) s = ((x s).1.map f, (x s).2) := by
  simp only [Functor.map, ExceptT.map, ExceptT.mk, bind, StateT.bind]
  rcases x s with ⟨b | b, s'⟩ <;> rfl

@[simp] theorem ends_map {x : ExceptT ε (StateM σ) β} {f : β → α} :
    Ends (f <$> x) s done failed ↔ Ends x s (fun b s' => done (f b) s') failed := by
  simp only [Ends, run_map]
  rcases x s with ⟨b | b, s'⟩ <;> rfl

theorem run_discard (x : ExceptT ε (StateM σ) β) (s : σ) :
    (discard x : ExceptT ε (StateM σ) PUnit) s = ((x s).1.map fun _ => ⟨⟩, (x s).2) :=
  run_map _ x s

@[simp] theorem ends_discard {x : ExceptT ε (StateM σ) β} {done : PUnit → σ → Prop} :
    Ends (discard x) s done failed ↔ Ends x s (fun _ s' => done ⟨⟩ s') failed :=
  ends_map

/-- A plain answer or error used as a computation. -/
@[simp] theorem ends_liftM {r : Except ε α} :
    Ends (liftM r : ExceptT ε (StateM σ) α) s done failed ↔
      match r with
      | .ok a => done a s
      | .error e => failed e s := by
  cases r <;> rfl

/-- A plain answer or error where a computation may break off. -/
@[simp] theorem ends_liftM_except {r : Except Error α} {failed : Failure → σ → Prop} :
    Ends (liftM r : ExceptT Failure (StateM σ) α) s done failed ↔
      match r with
      | .ok a => done a s
      | .error e => failed (.error e) s := by
  cases r <;> rfl

theorem run_liftM_failure (x : ExceptT Error (StateM σ) α) (s : σ) :
    (liftM x : ExceptT Failure (StateM σ) α) s = ((x s).1.mapError .error, (x s).2) := rfl

/-- A computation that cannot break off, used where one may. -/
@[simp] theorem ends_liftM_failure {x : ExceptT Error (StateM σ) α} {failed : Failure → σ → Prop} :
    Ends (liftM x : ExceptT Failure (StateM σ) α) s done failed ↔
      Ends x s done fun e => failed (.error e) := by
  unfold Ends
  rw [run_liftM_failure]
  rcases x s with ⟨e | a, s'⟩ <;> rfl

@[simp] theorem ends_get {done : σ → σ → Prop} :
    Ends (get : ExceptT ε (StateM σ) σ) s done failed ↔ done s s := Iff.rfl

@[simp] theorem ends_set {t : σ} {done : PUnit → σ → Prop} :
    Ends (set t : ExceptT ε (StateM σ) PUnit) s done failed ↔ done ⟨⟩ t := Iff.rfl

@[simp] theorem ends_modify {f : σ → σ} {done : PUnit → σ → Prop} :
    Ends (modify f : ExceptT ε (StateM σ) PUnit) s done failed ↔ done ⟨⟩ (f s) := Iff.rfl

end

/-- A loop that keeps `I` and makes `Q` hold of each item it went through; what holds of an item
goes on holding. Whatever stops it leaves `F`. -/
theorem ends_forM {l : List α} {f : α → ExceptT ε (StateM σ) PUnit} {I : σ → Prop}
    {Q : α → σ → Prop} {F : ε → σ → Prop}
    (hstep : ∀ a ∈ l, ∀ s, I s →
      Ends (f a) s (fun _ s' => I s' ∧ Q a s' ∧ ∀ b ∈ l, Q b s → Q b s') F)
    {s : σ} (hs : I s) :
    Ends (l.forM f) s (fun _ s' => I s' ∧ ∀ a ∈ l, Q a s') F := by
  suffices h : ∀ (rest : List α), (∀ a ∈ rest, a ∈ l) → ∀ s, I s →
      Ends (rest.forM f) s
        (fun _ s' => I s' ∧ (∀ a ∈ rest, Q a s') ∧ ∀ b ∈ l, Q b s → Q b s') F from
    (h l (fun _ ha => ha) s hs).mono (fun _ _ hd => ⟨hd.1, hd.2.1⟩) fun _ _ he => he
  intro rest
  induction rest with
  | nil => intro _ s hs; exact ⟨hs, by simp, fun _ _ hb => hb⟩
  | cons a rest ih =>
    intro hsub s hs
    rw [List.forM, ends_bind]
    refine (hstep a (hsub a List.mem_cons_self) s hs).mono (fun _ s1 h1 => ?_) fun _ _ he => he
    refine (ih (fun b hb => hsub b (List.mem_cons_of_mem _ hb)) s1 h1.1).mono
      (fun _ s2 h2 => ⟨h2.1, fun b hb => ?_, fun b hb hq => h2.2.2 b hb (h1.2.2 b hb hq)⟩)
      fun _ _ he => he
    rcases List.mem_cons.1 hb with rfl | hb
    · exact h2.2.2 b (hsub b List.mem_cons_self) h1.2.1
    · exact h2.2.1 b hb

/-! ## What is kept whatever happens -/

/-- The computation takes every state to one that `R` relates to it. -/
def Keeps (R : σ → σ → Prop) (x : ExceptT ε (StateM σ) α) : Prop :=
  ∀ s, Ends x s (fun _ => R s) fun _ => R s

section
variable {R R' : σ → σ → Prop} {x : ExceptT ε (StateM σ) α}

theorem Keeps.state (h : Keeps R x) (s : σ) : R s (x s).2 := (h s).state

theorem Keeps.mono (h : Keeps R x) (hR : ∀ s s', R s s' → R' s s') : Keeps R' x := fun s =>
  (h s).mono (fun _ _ => hR _ _) fun _ _ => hR _ _

/-- An ending together with what is kept on the way. -/
theorem Keeps.ends (h : Keeps R x) {s : σ} {done : α → σ → Prop} {failed : ε → σ → Prop}
    (hx : Ends x s done failed) :
    Ends x s (fun a s' => done a s' ∧ R s s') fun e s' => failed e s' ∧ R s s' :=
  hx.and (h s)

variable [IsPreorder σ R]

theorem Keeps.pure (a : α) : Keeps R (pure a : ExceptT ε (StateM σ) α) := fun s =>
  Std.Refl.refl (r := R) s

theorem Keeps.throw (e : ε) : Keeps R (throw e : ExceptT ε (StateM σ) α) := fun s =>
  Std.Refl.refl (r := R) s

theorem Keeps.liftM (r : Except ε α) : Keeps R (liftM r : ExceptT ε (StateM σ) α) :=
  fun s => by cases r <;> exact Std.Refl.refl (r := R) s

theorem keeps_liftM_except (r : Except Error α) :
    Keeps R (liftM r : ExceptT Failure (StateM σ) α) :=
  fun s => by cases r <;> exact Std.Refl.refl (r := R) s

omit [IsPreorder σ R] in
theorem keeps_liftM_failure {x : ExceptT Error (StateM σ) α} (hx : Keeps R x) :
    Keeps R (liftM x : ExceptT Failure (StateM σ) α) :=
  fun s => ends_liftM_failure.2 (hx s)

theorem Keeps.bind {f : α → ExceptT ε (StateM σ) β} (hx : Keeps R x)
    (hf : ∀ a, Keeps R (f a)) : Keeps R (x >>= f) := fun s =>
  ends_bind.2 <| (hx s).mono
    (fun a s' h => (hf a s').mono (fun _ _ h' => IsTrans.trans _ _ _ h h')
      fun _ _ h' => IsTrans.trans _ _ _ h h')
    fun _ _ h => h

/-- What follows on a computation keeps `R` from the state on that the computation leaves. -/
theorem Keeps.after {f : α → ExceptT ε (StateM σ) β} (hf : ∀ a, Keeps R (f a)) (s : σ) :
    Ends (x >>= f) s (fun _ => R (x s).2) fun _ => R (x s).2 := by
  rw [ends_bind]
  refine ends_of (fun a s' hx => ?_) fun e s' hx => ?_
  · rw [hx]
    exact hf a s'
  · rw [hx]
    exact Std.Refl.refl s'

theorem Keeps.get : Keeps R (get : ExceptT ε (StateM σ) σ) := fun s =>
  Std.Refl.refl (r := R) s

omit [IsPreorder σ R] in
theorem Keeps.modify {f : σ → σ} (h : ∀ s, R s (f s)) :
    Keeps R (modify f : ExceptT ε (StateM σ) PUnit) := h

omit [IsPreorder σ R] in
theorem Keeps.discard (hx : Keeps R x) : Keeps R (discard x) := fun s => ends_discard.2 (hx s)

theorem Keeps.forM {l : List α} {f : α → ExceptT ε (StateM σ) PUnit}
    (hf : ∀ a ∈ l, Keeps R (f a)) : Keeps R (l.forM f) := by
  induction l with
  | nil => exact Keeps.pure _
  | cons a l ih =>
    rw [List.forM]
    exact (hf a List.mem_cons_self).bind fun _ => ih fun b hb => hf b (List.mem_cons_of_mem _ hb)

theorem Keeps.foldlM {l : List α} {f : β → α → ExceptT ε (StateM σ) β} {b : β}
    (hf : ∀ b, ∀ a ∈ l, Keeps R (f b a)) : Keeps R (l.foldlM f b) := by
  induction l generalizing b with
  | nil => exact Keeps.pure _
  | cons a l ih =>
    rw [List.foldlM_cons]
    exact (hf b a List.mem_cons_self).bind fun b' =>
      ih fun b a ha => hf b a (List.mem_cons_of_mem _ ha)

end

/-! ## The cluster -/

namespace ClusterM

variable {k : ResourceKind} {c : Cluster} {failed : Error → Cluster → Prop}

@[simp] theorem ends_ofStore {f : Cluster → Except Error (α × Store k)}
    {done : α → Cluster → Prop} :
    Ends (ofStore k f) c done failed ↔
      (∀ a s, f c = .ok (a, s) → done a (c.setStore k s)) ∧ ∀ e, f c = .error e → failed e c := by
  simp only [ofStore, ends_bind, ends_get]
  rcases f c with e | ⟨a, s⟩
  · simp
  · simp only [ends_bind, ends_set, ends_pure, Except.ok.injEq, Prod.mk.injEq]
    exact ⟨fun h => ⟨fun _ _ ⟨ha, hs⟩ => ha ▸ hs ▸ h, nofun⟩, fun h => h.1 a s ⟨rfl, rfl⟩⟩

@[simp] theorem ends_now {done : Instant → Cluster → Prop} :
    Ends now c done failed ↔ done c.clock c := Iff.rfl

@[simp] theorem ends_get? {ns name : String} {done : Option (Object k) → Cluster → Prop} :
    Ends (get? k ns name) c done failed ↔ done ((c.store k).objects.get? ⟨ns, name⟩) c := Iff.rfl

@[simp] theorem ends_list {ns : Option String} {selector : Selector}
    {done : List (Object k) → Cluster → Prop} :
    Ends (list k ns selector) c done failed ↔ done ((c.store k).list ns selector) c := Iff.rfl

section
variable {R : Cluster → Cluster → Prop} [IsPreorder Cluster R]

theorem keeps_now : Keeps R now := fun c => Std.Refl.refl (r := R) c

theorem keeps_get? (k : ResourceKind) (ns name : String) : Keeps R (get? k ns name) :=
  fun c => Std.Refl.refl (r := R) c

theorem keeps_list (k : ResourceKind) (ns : Option String) (selector : Selector) :
    Keeps R (list k ns selector) :=
  fun c => Std.Refl.refl (r := R) c

end

end ClusterM

/-! ## The platform -/

namespace PlatformM

variable {p : Platform}

@[simp] theorem ends_onCluster {x : ExceptT ε (StateM Cluster) α} {done : α → Platform → Prop}
    {failed : ε → Platform → Prop} :
    Ends (onCluster x) p done failed ↔
      Ends x p.cluster (fun a c => done a { p with cluster := c })
        fun e c => failed e { p with cluster := c } := by
  unfold Ends onCluster
  rcases x p.cluster with ⟨a | a, c⟩ <;> rfl

theorem run_onCluster {x : ExceptT ε (StateM Cluster) α} {r : Except ε α} {c : Cluster}
    (h : x p.cluster = (r, c)) : onCluster x p = (r, { p with cluster := c }) := by
  rw [onCluster, h]

@[simp] theorem ends_attempt {x : PlatformM α} {done : Except Error α → Platform → Prop}
    {failed : Error → Platform → Prop} :
    Ends (attempt x) p done failed ↔
      Ends x p (fun a => done (.ok a)) fun e => done (.error e) := by
  unfold Ends attempt
  rcases x p with ⟨a | a, p'⟩ <;> rfl

theorem keeps_onCluster {R : Cluster → Cluster → Prop} {R' : Platform → Platform → Prop}
    {x : ExceptT ε (StateM Cluster) α} (hx : Keeps R x)
    (hR : ∀ (p : Platform) c, R p.cluster c → R' p { p with cluster := c }) :
    Keeps R' (onCluster x) := fun p =>
  ends_onCluster.2 ((hx p.cluster).mono (fun _ _ => hR p _) fun _ _ => hR p _)

theorem keeps_attempt {R : Platform → Platform → Prop} {x : PlatformM α} (hx : Keeps R x) :
    Keeps R (attempt x) := fun p => ends_attempt.2 (hx p)

end PlatformM

end PolicyOperator
