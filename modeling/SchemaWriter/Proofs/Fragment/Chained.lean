import SchemaWriter.Proofs.Fragment.Imports
import SchemaWriter.Proofs.Fragment.Rendered

namespace SchemaWriter.Fragment

structure Joins (fragment : Fragment) (links : List Fragment) : Prop where
  render : fragment.render = ".".intercalate (links.map render)
  imports : fragment.imports = links.flatMap imports

theorem joins_singleton (fragment : Fragment) : fragment.Joins [fragment] where
  render := String.intercalate_singleton.symm
  imports := (List.flatMap_singleton _ _).symm

theorem render_chain (first : Fragment) (links : List Fragment) :
    (chain first links).render = ".".intercalate ((first :: links).map render) := by
  rw [List.map_cons, ← renderAll_eq_map]
  rfl

theorem render_andThen (fragment link : Fragment) :
    (fragment.andThen link).render = fragment.render ++ "." ++ link.render := by
  have hgrown (first : Fragment) (links : List Fragment) : (chain first (links ++ [link])).render =
      (chain first links).render ++ "." ++ link.render := by
    rw [render_chain, render_chain, ← List.cons_append, List.map_append,
      String.intercalate_append_of_ne_nil (by simp) (by simp), List.map_singleton,
      String.intercalate_singleton]
  unfold andThen
  split
  case h_1 first links => exact hgrown first links
  -- The imports of a chain stay on it, and are not written.
  case h_2 requirements first links => exact hgrown first links
  case h_3 => rw [render_chain, List.map_cons, List.map_singleton, String.intercalate_cons_cons,
    String.intercalate_singleton]

theorem Joins.andThen {front back : Fragment} {links more : List Fragment}
    (hfront : front.Joins links) (hback : back.Joins more) (hlinks : links ≠ [])
    (hmore : more ≠ []) : (front.andThen back).Joins (links ++ more) where
  render := by
    rw [render_andThen, hfront.render, hback.render, List.map_append,
      String.intercalate_append_of_ne_nil (by simpa using hlinks) (by simpa using hmore)]
  imports := by
    rw [imports_andThen, hfront.imports, hback.imports, List.flatMap_append]

theorem Joins.foldl_andThen {fragment : Fragment} {links : List Fragment}
    (h : fragment.Joins links) (hlinks : links ≠ []) (more : List Fragment) :
    (more.foldl Fragment.andThen fragment).Joins (links ++ more) := by
  induction more generalizing fragment links with
  | nil => simpa using h
  | cons link more ih =>
    have hstep := h.andThen (joins_singleton link) hlinks (List.cons_ne_nil _ _)
    simpa using ih hstep (by simp)

theorem andThen_joins :
    (∀ a b : Fragment, (a.andThen b).render = a.render ++ "." ++ b.render ∧
      (a.andThen b).imports = a.imports ++ b.imports) ∧
    (∀ a b c : Fragment,
      ((a.andThen b).andThen c).render = (a.andThen (b.andThen c)).render ∧
      ((a.andThen b).andThen c).imports = (a.andThen (b.andThen c)).imports) ∧
    ∀ (first : Fragment) (links : List Fragment),
      (links.foldl andThen first).render = ".".intercalate ((first :: links).map render) ∧
      (links.foldl andThen first).imports = (first :: links).flatMap imports := by
  refine ⟨fun a b => ⟨render_andThen a b, imports_andThen a b⟩, fun a b c => ?_, ?_⟩
  · have hpair (x y : Fragment) : (x.andThen y).Joins [x, y] :=
      (joins_singleton x).andThen (joins_singleton y) (by simp) (by simp)
    have hleft : ((a.andThen b).andThen c).Joins [a, b, c] :=
      (hpair a b).andThen (joins_singleton c) (by simp) (by simp)
    have hright : (a.andThen (b.andThen c)).Joins [a, b, c] :=
      (joins_singleton a).andThen (hpair b c) (by simp) (by simp)
    exact ⟨hleft.render.trans hright.render.symm, hleft.imports.trans hright.imports.symm⟩
  · intro first links
    have hall := (joins_singleton first).foldl_andThen (by simp) links
    exact ⟨hall.render, hall.imports⟩

end SchemaWriter.Fragment
