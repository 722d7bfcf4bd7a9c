import Mathlib.Logic.Basic

/-!
# Programs over atomic actions

A program that talks to shared state is a tree of atomic actions: it either has returned, or it
offers one action and continues on the answer.  Run to the end against a handler it is an ordinary
sequential call; taken one action at a time it is a thread whose actions interleave with those of
other threads.

Main result: `Prog.Sound.bind`.
-/

/-- A program over the actions `A`, where the action `a` is answered by an
`Ans a`, returning an `α`. -/
inductive Prog (A : Type) (Ans : A → Type) (α : Type) : Type
  | ret (x : α)
  /-- The program executes `a` and goes on with the answer. -/
  | act (a : A) (k : Ans a → Prog A Ans α)

namespace Prog

variable {A : Type} {Ans : A → Type} {α β : Type}

def bind : Prog A Ans α → (α → Prog A Ans β) → Prog A Ans β
  | .ret x, f => f x
  | .act a k, f => .act a fun r => (k r).bind f

instance : Monad (Prog A Ans) where
  pure := .ret
  bind := .bind

def perform (a : A) : Prog A Ans (Ans a) := .act a .ret

variable (x : α)

@[simp] theorem ret_bind (f : α → Prog A Ans β) : (Prog.ret x).bind f = f x := rfl

@[simp] theorem act_bind (a : A) (k : Ans a → Prog A Ans α) (f : α → Prog A Ans β) :
    (Prog.act a k).bind f = .act a fun r => (k r).bind f := rfl

@[simp] theorem pure_eq : (pure x : Prog A Ans α) = .ret x := rfl

@[simp] theorem bind_eq (p : Prog A Ans α) (f : α → Prog A Ans β) : (p >>= f) = p.bind f := rfl

@[simp] theorem perform_bind (a : A) (f : Ans a → Prog A Ans β) :
    (perform a : Prog A Ans (Ans a)).bind f = .act a f := rfl

def runWith {S : Type} (h : (a : A) → S → Ans a × S) : Prog A Ans α → S → α × S
  | .ret x, s => (x, s)
  | .act a k, s => (k (h a s).1).runWith h (h a s).2

variable {S : Type} (h : (a : A) → S → Ans a × S)

@[simp] theorem runWith_ret (s : S) : (Prog.ret x : Prog A Ans α).runWith h s = (x, s) := rfl

@[simp] theorem runWith_act (a : A) (k : Ans a → Prog A Ans α) (s : S) :
    (Prog.act a k).runWith h s = (k (h a s).1).runWith h (h a s).2 := rfl

theorem runWith_bind (p : Prog A Ans α) (f : α → Prog A Ans β) (s : S) :
    (p.bind f).runWith h s = (f (p.runWith h s).1).runWith h (p.runWith h s).2 := by
  induction p generalizing s with
  | ret x => rfl
  | act a k ih => exact ih _ _

def Sound {G : Type} (pre : G → A → Prop) (upd : (a : A) → Ans a → G → G → Prop)
    (post : α → G → Prop) : Prog A Ans α → G → Prop
  | .ret x, g => post x g
  | .act a k, g => pre g a ∧ ∀ r g', upd a r g g' → Sound pre upd post (k r) g'

variable {G : Type} {pre : G → A → Prop} {upd : (a : A) → Ans a → G → G → Prop}

variable {post : α → G → Prop}

@[simp] theorem sound_ret (g : G) : Sound pre upd post (.ret x) g ↔ post x g := Iff.rfl

theorem Sound.bind {post' : β → G → Prop} {f : α → Prog A Ans β} :
    ∀ {p : Prog A Ans α} {g : G}, Sound pre upd post p g →
      (∀ x g', post x g' → Sound pre upd post' (f x) g') → Sound pre upd post' (p.bind f) g := by
  intro p
  induction p with
  | ret x => intro g hp hf; exact hf x g hp
  | act a k ih =>
    intro g hp hf
    exact ⟨hp.1, fun r g' hr => ih r (hp.2 r g' hr) hf⟩

theorem Sound.mono {post' : α → G → Prop} (h : ∀ x g, post x g → post' x g) :
    ∀ {p : Prog A Ans α} {g : G}, Sound pre upd post p g → Sound pre upd post' p g := by
  intro p
  induction p with
  | ret x => intro g hp; exact h x g hp
  | act a k ih => intro g hp; exact ⟨hp.1, fun r g' hr => ih r (hp.2 r g' hr)⟩

def Only (P : A → Prop) : Prog A Ans α → Prop
  | .ret _ => True
  | .act a k => P a ∧ ∀ r, Only P (k r)

variable {P : A → Prop}

@[simp] theorem only_ret : Only P (.ret x : Prog A Ans α) := trivial

@[simp] theorem only_act (a : A) (k : Ans a → Prog A Ans α) :
    Only P (.act a k) ↔ P a ∧ ∀ r, Only P (k r) := Iff.rfl

theorem Only.bind {f : α → Prog A Ans β} (hf : ∀ x, Only P (f x)) :
    ∀ {p : Prog A Ans α}, Only P p → Only P (p.bind f) := by
  intro p
  induction p with
  | ret x => intro _; exact hf x
  | act a k ih => intro hp; exact ⟨hp.1, fun r => ih r (hp.2 r)⟩

theorem Only.mono {Q : A → Prop} (h : ∀ a, P a → Q a) :
    ∀ {p : Prog A Ans α}, Only P p → Only Q p := by
  intro p
  induction p with
  | ret x => intro _; trivial
  | act a k ih => intro hp; exact ⟨h a hp.1, fun r => ih r (hp.2 r)⟩

theorem Only.runWith_inv {h : (a : A) → S → Ans a × S} {J : S → Prop}
    (hstep : ∀ a s, P a → J s → J (h a s).2) :
    ∀ {p : Prog A Ans α} {s : S}, Only P p → J s → J (p.runWith h s).2 := by
  intro p
  induction p with
  | ret x => intro s _ hs; exact hs
  | act a k ih => intro s hp hs; exact ih _ (hp.2 _) (hstep a s hp.1 hs)

theorem runWith_sim {T : Type} {h : (a : A) → S → Ans a × S} {h' : (a : A) → T → Ans a × T}
    {R : S → T → Prop} (hstep : ∀ a s t, R s t → (h a s).1 = (h' a t).1 ∧ R (h a s).2 (h' a t).2) :
    ∀ {p : Prog A Ans α} {s : S} {t : T}, R s t →
      (p.runWith h s).1 = (p.runWith h' t).1 ∧ R (p.runWith h s).2 (p.runWith h' t).2 := by
  intro p
  induction p with
  | ret x => intro s t hst; exact ⟨rfl, hst⟩
  | act a k ih =>
    intro s t hst
    obtain ⟨hans, hrel⟩ := hstep a s t hst
    rw [runWith_act, runWith_act, hans]
    exact ih _ hrel

theorem Only.sound {J : G → Prop} (hpre : ∀ g a, J g → P a → pre g a)
    (hupd : ∀ g a r g', J g → P a → upd a r g g' → J g') (hpost : ∀ x g, J g → post x g) :
    ∀ {p : Prog A Ans α} {g : G}, Only P p → J g → Sound pre upd post p g := by
  intro p
  induction p with
  | ret x => intro g _ hg; exact hpost x g hg
  | act a k ih =>
    intro g hp hg
    exact ⟨hpre g a hg hp.1, fun r g' hr => ih r (hp.2 r) (hupd g a r g' hg hp.1 hr)⟩

end Prog
