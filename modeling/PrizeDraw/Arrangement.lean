namespace PrizeDraw

namespace Arrangement

variable {α : Type}

def place (le : α → α → Bool) (a : α) : List α → List α
  | [] => [a]
  | b :: rest => if le a b then a :: b :: rest else b :: place le a rest

def arrange (le : α → α → Bool) : List α → List α
  | [] => []
  | a :: rest => place le a (arrange le rest)

theorem place_perm (le : α → α → Bool) (a : α) (l : List α) :
    List.Perm (place le a l) (a :: l) := by
  induction l with
  | nil => exact List.Perm.refl _
  | cons b rest ih =>
      simp only [place]
      split
      · exact List.Perm.refl _
      · exact (ih.cons b).trans (List.Perm.swap a b rest)

theorem arrange_perm (le : α → α → Bool) (l : List α) : List.Perm (arrange le l) l := by
  induction l with
  | nil => exact List.Perm.refl _
  | cons a rest ih => exact (place_perm le a _).trans (ih.cons a)

theorem pairwise_place {le : α → α → Bool} (total : ∀ a b, le a b || le b a)
    (trans : ∀ a b c, le a b → le b c → le a c) (a : α) {l : List α}
    (h : l.Pairwise fun x y => le x y) : (place le a l).Pairwise fun x y => le x y := by
  induction l with
  | nil => simp [place]
  | cons b rest ih =>
      have hrest := List.pairwise_cons.1 h
      simp only [place]
      split
      · rename_i hab
        refine List.pairwise_cons.2 ⟨fun x hx => ?_, h⟩
        rcases List.mem_cons.1 hx with rfl | hx
        · exact hab
        · exact trans a b x hab (hrest.1 x hx)
      · rename_i hab
        refine List.pairwise_cons.2 ⟨fun x hx => ?_, ih hrest.2⟩
        rcases List.mem_cons.1 ((place_perm le a rest).mem_iff.1 hx) with rfl | hx
        · simpa [hab] using total x b
        · exact hrest.1 x hx

theorem pairwise_arrange {le : α → α → Bool} (total : ∀ a b, le a b || le b a)
    (trans : ∀ a b c, le a b → le b c → le a c) (l : List α) :
    (arrange le l).Pairwise fun x y => le x y := by
  induction l with
  | nil => exact List.Pairwise.nil
  | cons a rest ih => exact pairwise_place total trans a ih

end Arrangement

end PrizeDraw
