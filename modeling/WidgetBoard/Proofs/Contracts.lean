import WidgetBoard.Service.Plan

/-!
# Contracts between requests and a store

Between two calls of a request the store may change in any way, so what a request does is said of
its plan alone: which calls it makes, given what it may rely on in the replies.

* `Contract`      what may be asked of a store, and what may be relied on in its replies;
* `Plan.Sound`    a plan that asks nothing else, whatever it is replied, and ends with such a value;
* `Task.Sound`    the same for a plan that may fail: if it does not fail, it ends with such a value;
* `Plan.Sound.run`   a sound plan run over a store that keeps to the contract.

`Task.Sound.bind`, `Task.sound_ask`, `Task.sound_found` and `Task.sound_require` take a task apart
step by step.
-/

namespace WidgetBoard

variable {α β : Type}

structure Contract where
  allows : Call → Prop
  /-- what holds of a reply to a call -/
  replies : (c : Call) → c.Reply → Prop

/-! ## plans -/

namespace Plan

variable {k : Contract} {Q : α → Prop} {R : β → Prop}

def Sound (k : Contract) (Q : α → Prop) : Plan α → Prop
  | .done a => Q a
  | .ask c next => k.allows c ∧ ∀ r, k.replies c r → (next r).Sound k Q

theorem Sound.bind {p : Plan α} {f : α → Plan β} (h : p.Sound k Q)
    (hf : ∀ a, Q a → (f a).Sound k R) : (p.bind f).Sound k R := by
  induction p with
  | done a => exact hf a h
  | ask c next ih => exact ⟨h.1, fun r hr => ih r (h.2 r hr)⟩

theorem Sound.mono {p : Plan α} {Q' : α → Prop} (h : p.Sound k Q) (hq : ∀ a, Q a → Q' a) :
    p.Sound k Q' := by
  induction p with
  | done a => exact hq a h
  | ask c next ih => exact ⟨h.1, fun r hr => ih r (h.2 r hr)⟩

/-- a contract that allows more, and relies on no more -/
theorem Sound.weaken {k' : Contract} {p : Plan α} (h : p.Sound k Q)
    (hallows : ∀ c, k.allows c → k'.allows c) (hreplies : ∀ c r, k'.replies c r → k.replies c r) :
    p.Sound k' Q := by
  induction p with
  | done a => exact h
  | ask c next ih => exact ⟨hallows c h.1, fun r hr => ih r (h.2 r (hreplies c r hr))⟩

/-- a plan that is run over a store whose replies keep to the contract, as long as `I` holds -/
theorem Sound.run {σ : Type} {I : σ → Prop} {answer : (c : Call) → σ → c.Reply × σ} {p : Plan α}
    (h : p.Sound k Q)
    (hanswer : ∀ c s, k.allows c → I s → k.replies c (answer c s).1 ∧ I (answer c s).2)
    {s : σ} (hs : I s) : Q (p.run answer s).1 ∧ I (p.run answer s).2 := by
  induction p generalizing s with
  | done a => exact ⟨h, hs⟩
  | ask c next ih =>
    obtain ⟨hreply, hi⟩ := hanswer c s h.1 hs
    exact ih (answer c s).1 (h.2 _ hreply) hi

end Plan

/-! ## tasks -/

namespace Task

variable {k : Contract} {Q : α → Prop} {R : β → Prop}

def Sound (k : Contract) (Q : α → Prop) (t : Task α) : Prop :=
  t.run.Sound k fun r => ∀ a, r = .ok a → Q a

theorem sound_pure {a : α} (h : Q a) : (pure a : Task α).Sound k Q :=
  fun _ hb => Except.ok.inj hb ▸ h

theorem sound_throw (e : ServiceError) : (throw e : Task α).Sound k Q :=
  fun _ hb => nomatch hb

theorem Sound.bind {t : Task α} {f : α → Task β} (h : t.Sound k Q)
    (hf : ∀ a, Q a → (f a).Sound k R) : (t >>= f).Sound k R := by
  refine Plan.Sound.bind h fun r hr => ?_
  cases r with
  | error e => exact fun b hb => nomatch hb
  | ok a => exact hf a (hr a rfl)

theorem Sound.map {t : Task α} {f : α → β} (h : t.Sound k Q) (hf : ∀ a, Q a → R (f a)) :
    (f <$> t).Sound k R := by
  refine Plan.Sound.bind h fun r hr => ?_
  cases r with
  | error e => exact fun b hb => nomatch hb
  | ok a => exact fun b hb => Except.ok.inj hb ▸ hf a (hr a rfl)

theorem sound_ask {c : Call} {Q : c.Answer → Prop} (hc : k.allows c)
    (hr : ∀ a, k.replies c (.ok a) → Q a) : (ask c).Sound k Q := by
  refine ⟨hc, fun r hk => ?_⟩
  cases r with
  | error e => exact fun b hb => nomatch hb
  | ok a => exact fun b hb => Except.ok.inj hb ▸ hr a hk

theorem sound_attempt {c : Call} (hc : k.allows c) : (attempt c).Sound k fun _ => True :=
  ⟨hc, fun _ _ _ _ => trivial⟩

theorem sound_found {o : Option α} {what : Missing} (h : ∀ a, o = some a → Q a) :
    (found o what).Sound k Q := by
  cases o with
  | some a => exact sound_pure (h a rfl)
  | none => exact sound_throw _

theorem sound_require {vs : List Violation} : (require vs).Sound k fun _ => vs = [] := by
  cases vs with
  | nil => exact sound_pure rfl
  | cons v vs => exact sound_throw _

end Task

end WidgetBoard
