import Mathlib.Data.List.Basic
import Mathlib.Data.List.Induction
import Mathlib.Tactic.Common

/-!
# Stateful programs that may stop

A `Prog σ ε α` runs on a state of type `σ` and either returns a value of type `α` or stops with a
reason of type `ε`. The state it reached is kept in both cases: it is what an early return leaves
behind, so statements about stopped runs can be made about that state.

`Prog.forEach` is the loop of a process that consumes a channel one message at a time and ends at
the first message it refuses. Its two rules are `forEach_append`, which cuts a run at any message,
and `forEach_induction`, which carries a property along a whole run.
-/

universe u

/-- A program over the state `σ`, stopping with a reason in `ε` or returning a value in `α`. -/
def Prog (σ ε α : Type u) : Type u := σ → Except ε α × σ

namespace Prog

variable {σ ε α β : Type u}

/-- Return a value and leave the state as it is. -/
def ret (a : α) : Prog σ ε α := fun s => (.ok a, s)

/-- Run `x`, then `f` on its value from the state `x` reached; a stop of `x` skips `f`. -/
def andThen (x : Prog σ ε α) (f : α → Prog σ ε β) : Prog σ ε β := fun s =>
  match x s with
  | (.ok a, s') => f a s'
  | (.error e, s') => (.error e, s')

instance : Monad (Prog σ ε) where
  pure := ret
  bind := andThen

/-- Read the state. -/
def get : Prog σ ε σ := fun s => (.ok s, s)

/-- Update the state. -/
def modify (f : σ → σ) : Prog σ ε PUnit := fun s => (.ok ⟨⟩, f s)

/-- Stop with the reason `e`. -/
def stop (e : ε) : Prog σ ε α := fun s => (.error e, s)

@[simp] lemma pure_apply (a : α) (s : σ) : (pure a : Prog σ ε α) s = (.ok a, s) := rfl

@[simp] lemma get_apply (s : σ) : (get : Prog σ ε σ) s = (.ok s, s) := rfl

@[simp] lemma modify_apply (f : σ → σ) (s : σ) : (modify f : Prog σ ε PUnit) s = (.ok ⟨⟩, f s) := rfl

@[simp] lemma stop_apply (e : ε) (s : σ) : (stop e : Prog σ ε α) s = (.error e, s) := rfl

lemma bind_apply (x : Prog σ ε α) (f : α → Prog σ ε β) (s : σ) :
    (x >>= f) s = match x s with
      | (.ok a, s') => f a s'
      | (.error e, s') => (.error e, s') := rfl

/-- A program that returns hands its value and its state on. -/
lemma bind_of_ok {x : Prog σ ε α} {f : α → Prog σ ε β} {s s' : σ} {a : α}
    (h : x s = (.ok a, s')) : (x >>= f) s = f a s' := by
  rw [bind_apply, h]

/-- A program that stops ends the whole sequence, in the state it stopped in. -/
lemma bind_of_error {x : Prog σ ε α} {f : α → Prog σ ε β} {s s' : σ} {e : ε}
    (h : x s = (.error e, s')) : (x >>= f) s = (.error e, s') := by
  rw [bind_apply, h]

/-! ### Consuming a list of messages -/

/-- Run `f` on each message in turn; the first stop ends the loop. -/
def forEach (f : β → Prog σ ε PUnit) : List β → Prog σ ε PUnit
  | [] => pure ⟨⟩
  | b :: bs => f b >>= fun _ => forEach f bs

@[simp] lemma forEach_nil (f : β → Prog σ ε PUnit) (s : σ) : forEach f [] s = (.ok ⟨⟩, s) := rfl

lemma forEach_cons (f : β → Prog σ ε PUnit) (b : β) (bs : List β) (s : σ) :
    forEach f (b :: bs) s = (f b >>= fun _ => forEach f bs) s := rfl

/-- A run over `as ++ bs` is a run over `as` and, if that did not stop, one over `bs`. -/
lemma forEach_append (f : β → Prog σ ε PUnit) (as bs : List β) (s : σ) :
    forEach f (as ++ bs) s = (forEach f as >>= fun _ => forEach f bs) s := by
  induction as generalizing s with
  | nil => rfl
  | cons a as ih =>
    rw [List.cons_append, forEach_cons, bind_apply, bind_apply, forEach_cons, bind_apply]
    rcases f a s with ⟨_ | _, s'⟩
    · rfl
    · exact ih s'

lemma forEach_append_of_ok {f : β → Prog σ ε PUnit} {as bs : List β} {s s' : σ}
    (h : forEach f as s = (.ok ⟨⟩, s')) : forEach f (as ++ bs) s = forEach f bs s' := by
  rw [forEach_append, bind_of_ok h]

lemma forEach_append_of_error {f : β → Prog σ ε PUnit} {as bs : List β} {s s' : σ} {e : ε}
    (h : forEach f as s = (.error e, s')) : forEach f (as ++ bs) s = (.error e, s') := by
  rw [forEach_append, bind_of_error h]

/-- One more message: it is consumed by the state the run before it left. -/
lemma forEach_concat_of_ok {f : β → Prog σ ε PUnit} {as : List β} {a : β} {s s' : σ}
    (h : forEach f as s = (.ok ⟨⟩, s')) : forEach f (as ++ [a]) s = f a s' := by
  rw [forEach_append_of_ok h, forEach_cons, bind_apply]
  rcases f a s' with ⟨_ | _, _⟩ <;> rfl

/-- A run over messages that come in bundles is a run over the bundles. -/
lemma forEach_flatMap {γ : Type u} (f : β → Prog σ ε PUnit) (g : γ → List β) (cs : List γ) (s : σ) :
    forEach f (cs.flatMap g) s = forEach (fun c => forEach f (g c)) cs s := by
  induction cs generalizing s with
  | nil => rfl
  | cons c cs ih =>
    rw [List.flatMap_cons, forEach_append, forEach_cons, bind_apply, bind_apply]
    rcases forEach f (g c) s with ⟨_ | _, s'⟩
    · rfl
    · exact ih s'

/-- A run that stopped was stopped by one of its messages. -/
lemma exists_of_forEach_error {f : β → Prog σ ε PUnit} {as : List β} {s s' : σ} {e : ε}
    (h : forEach f as s = (.error e, s')) :
    ∃ bs b s₁, bs ++ [b] <+: as ∧ forEach f bs s = (.ok ⟨⟩, s₁) ∧ f b s₁ = (.error e, s') := by
  induction as using List.reverseRecOn with
  | nil => simp at h
  | append_singleton as a ih =>
    rcases has : forEach f as s with ⟨e₁ | ⟨⟩, s₁⟩
    · rw [forEach_append_of_error has] at h
      obtain ⟨bs, b, s₂, hpre, hbs, hb⟩ := ih (has.trans h)
      exact ⟨bs, b, s₂, hpre.trans (List.prefix_append as [a]), hbs, hb⟩
    · rw [forEach_concat_of_ok has] at h
      exact ⟨as, a, s₁, List.prefix_refl _, has, h⟩

/-- Induction along a run. A property of the messages so far, the result and the state holds
after every list of messages when it holds at the start, one consumed message preserves it, and
it is not lost by messages that arrive after the run has stopped. -/
theorem forEach_induction {f : β → Prog σ ε PUnit} {s : σ}
    {P : List β → Except ε PUnit → σ → Prop} (nil : P [] (.ok ⟨⟩) s)
    (step : ∀ as a s', forEach f as s = (.ok ⟨⟩, s') → P as (.ok ⟨⟩) s' →
      P (as ++ [a]) (f a s').1 (f a s').2)
    (stopped : ∀ as a e s', forEach f as s = (.error e, s') → P as (.error e) s' →
      P (as ++ [a]) (.error e) s') (as : List β) :
    P as (forEach f as s).1 (forEach f as s).2 := by
  induction as using List.reverseRecOn with
  | nil => exact nil
  | append_singleton as a ih =>
    rcases h : forEach f as s with ⟨e | ⟨⟩, s'⟩
    · rw [h] at ih
      rw [forEach_append_of_error h]
      exact stopped as a e s' h ih
    · rw [h] at ih
      rw [forEach_concat_of_ok h]
      exact step as a s' h ih

lemma getElem?_of_concat_isPrefix {as all : List β} {a : β} (h : as ++ [a] <+: all) :
    all[as.length]? = some a := by
  obtain ⟨rest, rfl⟩ := h
  simp

/-- A message of `bs ++ cs` with those before it: it stands in `bs`, or after all of `bs`. -/
lemma concat_isPrefix_append {as bs cs : List β} {a : β} (h : as ++ [a] <+: bs ++ cs) :
    as ++ [a] <+: bs ∨ ∃ l, as = bs ++ l ∧ l ++ [a] <+: cs := by
  rcases List.prefix_or_prefix_of_prefix h (List.prefix_append bs cs) with hpre | hpre
  · exact .inl hpre
  rcases List.prefix_concat_iff.mp hpre with rfl | ⟨l, rfl⟩
  · exact .inl (List.prefix_refl _)
  · rw [List.append_assoc, List.prefix_append_right_inj] at h
    exact .inr ⟨l, rfl, h⟩

/-- Induction along a run over a fixed list of messages, of which `as` is the part consumed so
far. -/
theorem forEach_along {f : β → Prog σ ε PUnit} {s : σ} {P : List β → σ → Prop} (all : List β)
    (nil : P [] s)
    (step : ∀ as a s', as ++ [a] <+: all → forEach f as s = (.ok ⟨⟩, s') → P as s' →
      P (as ++ [a]) (f a s').2)
    (stopped : ∀ as a e s', forEach f as s = (.error e, s') → P as s' → P (as ++ [a]) s') :
    P all (forEach f all s).2 := by
  refine forEach_induction (P := fun as _ s' => as <+: all → P as s') ?_ ?_ ?_ all
    (List.prefix_refl all)
  · exact fun _ => nil
  · intro as a s' hrun ih has
    exact step as a s' has hrun (ih ((List.prefix_append as [a]).trans has))
  · intro as a e s' hrun ih has
    exact stopped as a e s' hrun (ih ((List.prefix_append as [a]).trans has))

end Prog
