import ChatModeration.Proofs.Store.Ledger

/-!
# What is left in a ledger

A ledger to which items are added, from which keys are cleared and what has expired is swept out, holds exactly the
items that nothing since has removed (`foldl_after`).
-/

namespace ChatModeration.Store

variable {κ τ : Type}

/-- Something that is done to a ledger. -/
inductive Deed (κ τ : Type) where
  | add (x : Line κ τ)
  | clear (key : κ)
  | sweep (now : Nat)

namespace Deed

/-- The item that is added. -/
def added? : Deed κ τ → Option (Line κ τ)
  | add x => some x
  | _ => none

variable [DecidableEq κ]

/-- Whether an item that was there before is still there. -/
def spares : Deed κ τ → Line κ τ → Bool
  | add _, _ => true
  | clear key, x => x.key ≠ key
  | sweep now, x => now < x.expiresAt

end Deed

namespace Ledger

variable [DecidableEq κ]

/-- The ledger after something is done to it. -/
def after (l : Ledger κ τ) (d : Deed κ τ) : Ledger κ τ := l.filter d.spares ++ d.added?.toList

/-- The items that are added and spared by everything that follows. -/
def survivors : List (Deed κ τ) → Ledger κ τ
  | [] => []
  | d :: later => d.added?.toList.filter (fun x => later.all (·.spares x)) ++ survivors later

theorem foldl_after (l : Ledger κ τ) (deeds : List (Deed κ τ)) :
    deeds.foldl after l = (l.filter fun x => deeds.all (·.spares x)) ++ survivors deeds := by
  induction deeds generalizing l with
  | nil => simp [survivors]
  | cons d later ih =>
    have hkept : (l.filter d.spares).filter (fun x => later.all (·.spares x)) =
        l.filter fun x => (d :: later).all (·.spares x) := by
      rw [List.filter_filter]
      refine List.filter_congr fun x _ => ?_
      rw [List.all_cons, Bool.and_comm]
    rw [List.foldl_cons, ih, after, List.filter_append, hkept, survivors, List.append_assoc]

theorem after_add (l : Ledger κ τ) (x : Line κ τ) : l.after (.add x) = l ++ [x] := by
  have hall : l.filter (Deed.spares (.add x)) = l := List.filter_eq_self.2 fun _ _ => rfl
  rw [after, hall]
  rfl

theorem after_clear (l : Ledger κ τ) (key : κ) : l.after (.clear key) = (l.clear key).1 := List.append_nil _

theorem after_sweep (l : Ledger κ τ) (now : Nat) : l.after (.sweep now) = (l.reclaim now).1 := List.append_nil _

theorem foldl_after_nil (deeds : List (Deed κ τ)) : deeds.foldl after [] = survivors deeds := foldl_after [] deeds

/-- What is left of some deeds stays if everything that is done later spares it. -/
theorem survivors_append (deeds later : List (Deed κ τ)) :
    survivors (deeds ++ later) = (survivors deeds).filter (fun x => later.all (·.spares x)) ++ survivors later := by
  rw [← foldl_after_nil, List.foldl_append, foldl_after_nil, foldl_after]

/-- Items that are only added are all left. -/
theorem foldl_after_map_add (l added : List (Line κ τ)) : (added.map Deed.add).foldl after l = l ++ added := by
  induction added generalizing l with
  | nil => rw [List.map_nil, List.foldl_nil, List.append_nil]
  | cons x added ih => rw [List.map_cons, List.foldl_cons, ih, after_add, List.append_assoc, List.singleton_append]

theorem survivors_map_add (added : List (Line κ τ)) : survivors (added.map Deed.add) = added := by
  rw [← foldl_after_nil, foldl_after_map_add, List.nil_append]

end Ledger

end ChatModeration.Store
