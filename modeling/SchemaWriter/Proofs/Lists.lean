import Mathlib.Data.List.Forall2
import Mathlib.Data.List.Nodup
import Mathlib.Data.List.ReduceOption
import Mathlib.Data.List.TakeDrop
import Mathlib.Data.List.TakeWhile

namespace SchemaWriter

variable {α β γ : Type}

theorem find?_eq_some_of_unique {p : α → Bool} {xs : List α} {x : α} (hx : x ∈ xs)
    (hp : p x = true) (hunique : ∀ y ∈ xs, p y = true → y = x) : xs.find? p = some x := by
  cases hfound : xs.find? p with
  | none => exact absurd hp (List.find?_eq_none.mp hfound x hx)
  | some y => rw [hunique y (List.mem_of_find?_eq_some hfound) (List.find?_some hfound)]

theorem filter_eq_singleton [DecidableEq β] {f : α → β} {xs : List α}
    (h : (xs.map f).Nodup) {x : α} (hx : x ∈ xs) : xs.filter (fun y => f y = f x) = [x] := by
  induction xs with
  | nil => cases hx
  | cons y rest ih =>
    obtain ⟨hy, hrest⟩ := List.nodup_cons.mp h
    rcases List.mem_cons.mp hx with rfl | hx
    · have hnone : rest.filter (fun z => f z = f x) = [] := by
        refine List.filter_eq_nil_iff.mpr fun z hz hname => hy ?_
        rw [← of_decide_eq_true hname]
        exact List.mem_map_of_mem hz
      rw [List.filter_cons_of_pos (by simp), hnone]
    · have hne : f y ≠ f x := fun hname => hy (hname ▸ List.mem_map_of_mem hx)
      rw [List.filter_cons_of_neg (by simpa using hne), ih hrest hx]

theorem find?_filter_of_find? {p q : α → Bool} {xs : List α} {x : α} (h : xs.find? p = some x)
    (hx : q x = true) : (xs.filter q).find? p = some x := by
  obtain ⟨hp, front, back, rfl, hfront⟩ := List.find?_eq_some_iff_append.mp h
  rw [List.find?_filter, List.find?_eq_some_iff_append]
  exact ⟨by simp [hp, hx], front, back, rfl, fun y hy => by simp [hfront y hy]⟩

theorem filter_eq_lookup {members : List (String × α)}
    (h : (members.map (·.1)).Nodup) (key : String) :
    members.filter (·.1 = key) = (members.lookup key).toList.map fun value => (key, value) := by
  cases hlookup : members.lookup key with
  | none =>
    rw [List.lookup_eq_none_iff] at hlookup
    refine List.filter_eq_nil_iff.mpr fun member hmem heq => ?_
    exact bne_iff_ne.mp (hlookup member hmem) (of_decide_eq_true heq).symm
  | some value =>
    obtain ⟨before, after, rfl, -⟩ := List.lookup_eq_some_iff.mp hlookup
    have hmem : (key, value) ∈ before ++ (key, value) :: after := by simp
    exact filter_eq_singleton h hmem

theorem map_eq_self_iff {f : α → α} {xs : List α} :
    xs.map f = xs ↔ ∀ x ∈ xs, f x = x := by
  have hmap : xs.map f = xs.map id ↔ ∀ x ∈ xs, f x = id x := List.map_inj_left
  rwa [List.map_id] at hmap

theorem lookup_cons_eq_ite (pair : String × α) (pairs : List (String × α)) (key : String) :
    (pair :: pairs).lookup key = if key = pair.1 then some pair.2 else pairs.lookup key := by
  obtain ⟨k, v⟩ := pair
  by_cases h : key = k
  · subst h
    simp
  · have hkey : (key == k) = false := beq_false_of_ne h
    simp only [List.lookup_cons, hkey, if_neg h]

theorem reduceOption_cons (x : Option α) (xs : List (Option α)) :
    (x :: xs).reduceOption = x.toList ++ xs.reduceOption := by
  cases x <;> rfl

theorem nodup_map_congr {f : α → β} {g : α → γ} (h : ∀ a b, f a = f b ↔ g a = g b)
    {xs : List α} : (xs.map f).Nodup ↔ (xs.map g).Nodup := by
  simp only [List.Nodup, List.pairwise_map, ne_eq, h]

theorem nodup_keys {pairs : List (String × α)} (h : pairs.Pairwise (·.1 < ·.1)) :
    (pairs.map (·.1)).Nodup := by
  refine (List.pairwise_map.mpr h).imp ?_
  rintro key _ hlt rfl
  exact String.lt_irrefl key hlt

theorem one_lt_length_eraseDups_iff {names : List String} :
    1 < names.eraseDups.length ↔ ∃ a ∈ names, ∃ b ∈ names, a ≠ b := by
  cases names with
  | nil => simp
  | cons first rest =>
    rw [List.eraseDups_cons, List.length_cons, Nat.lt_add_left_iff_pos,
      List.length_pos_iff_exists_mem]
    constructor
    · rintro ⟨other, hother⟩
      obtain ⟨hmem, hne⟩ := List.mem_filter.mp (List.mem_eraseDups.mp hother)
      exact ⟨other, List.mem_cons_of_mem first hmem, first, List.mem_cons_self, by simpa using hne⟩
    · rintro ⟨a, ha, b, hb, hne⟩
      -- One of two different names is not the first.
      have hother : ∃ other ∈ first :: rest, other ≠ first := by
        by_cases hfirst : a = first
        · exact ⟨b, hb, fun h => hne (hfirst.trans h.symm)⟩
        · exact ⟨a, ha, hfirst⟩
      obtain ⟨other, hmem, hother⟩ := hother
      have hrest : other ∈ rest := (List.mem_cons.mp hmem).resolve_left hother
      exact ⟨other, List.mem_eraseDups.mpr (List.mem_filter.mpr ⟨hrest, by simpa using hother⟩)⟩

theorem getLast?_filter_eq_some_iff {p : α → Bool} {as : List α} {a : α} :
    (as.filter p).getLast? = some a ↔
      p a = true ∧ ∃ front back, as = front ++ a :: back ∧ ∀ b ∈ back, p b = false := by
  rw [List.getLast?_filter, List.find?_eq_some_iff_append]
  refine and_congr_right fun _ => ?_
  constructor
  · rintro ⟨back, front, hsplit, hback⟩
    refine ⟨front.reverse, back.reverse, ?_, fun b hb => ?_⟩
    · simpa using congrArg List.reverse hsplit
    · simpa using hback b (List.mem_reverse.mp hb)
  · rintro ⟨front, back, rfl, hback⟩
    refine ⟨back.reverse, front.reverse, by simp, fun b hb => ?_⟩
    simpa using hback b (List.mem_reverse.mp hb)

theorem exists_zip_of_mem_left {R : α → β → Prop} {xs : List α} {ys : List β}
    (h : List.Forall₂ R xs ys) {x : α} (hx : x ∈ xs) : ∃ y, (x, y) ∈ xs.zip ys := by
  induction h with
  | nil => simp at hx
  | cons _ _ ih =>
    rcases List.mem_cons.mp hx with rfl | hx
    · exact ⟨_, List.mem_cons_self⟩
    · obtain ⟨y, hy⟩ := ih hx
      exact ⟨y, List.mem_cons_of_mem _ hy⟩

theorem exists_of_mem_left {R : α → β → Prop} {xs : List α} {ys : List β}
    (h : List.Forall₂ R xs ys) {x : α} (hx : x ∈ xs) : ∃ y ∈ ys, R x y := by
  obtain ⟨y, hzip⟩ := exists_zip_of_mem_left h hx
  exact ⟨y, (List.of_mem_zip hzip).2, List.forall₂_zip h hzip⟩

theorem exists_of_mem_right {R : α → β → Prop} {xs : List α} {ys : List β}
    (h : List.Forall₂ R xs ys) {y : β} (hy : y ∈ ys) : ∃ x ∈ xs, R x y :=
  exists_of_mem_left h.flip hy

theorem forall_mem_right_iff {R : α → β → Prop} {xs : List α} {ys : List β}
    (h : List.Forall₂ R xs ys) (hfun : ∀ x y y', R x y → R x y' → y = y') {P : β → Prop} :
    (∀ y ∈ ys, P y) ↔ ∀ x ∈ xs, ∀ y, R x y → P y := by
  constructor
  · intro hP x hx y hxy
    obtain ⟨y', hy', hxy'⟩ := exists_of_mem_left h hx
    exact hfun x y' y hxy' hxy ▸ hP y' hy'
  · intro hP y hy
    obtain ⟨x, hx, hxy⟩ := exists_of_mem_right h hy
    exact hP x hx y hxy

theorem exists_forall₂_iff {R : α → β → Prop} {xs : List α} :
    (∃ ys, List.Forall₂ R xs ys) ↔ ∀ x ∈ xs, ∃ y, R x y := by
  induction xs with
  | nil => simp
  | cons x xs ih =>
    rw [List.forall_mem_cons, ← ih]
    constructor
    · rintro ⟨_, h⟩
      cases h with
      | cons hy hys => exact ⟨⟨_, hy⟩, _, hys⟩
    · rintro ⟨⟨y, hy⟩, ys, hys⟩
      exact ⟨y :: ys, .cons hy hys⟩

theorem forall₂_filterMap {R : α → Option β → Prop} {p : α → Bool} {xs : List α}
    {options : List (Option β)} (h : List.Forall₂ R xs options)
    (hp : ∀ x option, R x option → p x = option.isSome) :
    List.Forall₂ (fun x y => R x (some y)) (xs.filter p) (options.filterMap id) := by
  induction h with
  | nil => exact .nil
  | @cons x option xs options hx _ ih =>
    have hsome := hp x option hx
    cases option with
    | none => simpa [hsome] using ih
    | some y => simpa [hsome] using And.intro hx ih

theorem map_eq_map_of_forall₂ {R : α → β → Prop} {f : α → γ} {g : β → γ}
    {xs : List α} {ys : List β} (h : List.Forall₂ R xs ys) (hfg : ∀ x y, R x y → g y = f x) :
    ys.map g = xs.map f := by
  induction h with
  | nil => rfl
  | cons hxy _ ih => rw [List.map_cons, List.map_cons, hfg _ _ hxy, ih]

theorem append_eq_append_of_first {test : α → Bool} {as bs xs ys : List α}
    (has : ∀ a ∈ as, test a = false) (hbs : ∀ b ∈ bs, test b = false)
    (hxs : ∀ x ∈ xs.head?, test x = true) (hys : ∀ y ∈ ys.head?, test y = true)
    (h : as ++ xs = bs ++ ys) : as = bs ∧ xs = ys := by
  induction as generalizing bs with
  | nil =>
    cases bs with
    | nil => exact ⟨rfl, h⟩
    | cons b bs =>
      obtain rfl : xs = b :: (bs ++ ys) := h
      exact absurd (hxs b rfl) (by simp [hbs b List.mem_cons_self])
  | cons a as ih =>
    cases bs with
    | nil =>
      obtain rfl : a :: (as ++ xs) = ys := h
      exact absurd (hys a rfl) (by simp [has a List.mem_cons_self])
    | cons b bs =>
      simp only [List.cons_append, List.cons.injEq] at h
      obtain ⟨hrest, htail⟩ := ih (fun c hc => has c (List.mem_cons_of_mem a hc))
        (fun c hc => hbs c (List.mem_cons_of_mem b hc)) h.2
      exact ⟨by rw [h.1, hrest], htail⟩

theorem span_reverse_eq_iff [DecidableEq α] {separator : α} {as front back : List α} {a : α} :
    as.reverse.span (· ≠ separator) = (back, a :: front) ↔
      a = separator ∧ as = front.reverse ++ separator :: back.reverse ∧ separator ∉ back := by
  rw [List.span_eq_takeWhile_dropWhile, Prod.mk.injEq]
  constructor
  · rintro ⟨rfl, hrest⟩
    have hfirst := List.head?_dropWhile_not (· ≠ separator) as.reverse
    rw [hrest] at hfirst
    obtain rfl : a = separator := by simpa using hfirst
    have hparts := List.takeWhile_append_dropWhile (p := (· ≠ a)) (l := as.reverse)
    rw [hrest] at hparts
    refine ⟨rfl, ?_, fun hmem => ?_⟩
    · simpa using (congrArg List.reverse hparts).symm
    · simpa using List.mem_takeWhile_imp hmem
  · rintro ⟨rfl, rfl, hback⟩
    have hother : ∀ b ∈ back, decide (b ≠ a) = true :=
      fun b hb => decide_eq_true fun heq => hback (heq ▸ hb)
    have hreverse : (front.reverse ++ a :: back.reverse).reverse = back ++ a :: front := by
      simp
    rw [hreverse, List.takeWhile_append_of_pos hother, List.dropWhile_append_of_pos hother]
    simp

theorem intercalate_cons_eq_flatMap (separator : α) (piece : List α) (back : List (List α)) :
    [separator].intercalate (piece :: back) = piece ++ back.flatMap (separator :: ·) := by
  induction back generalizing piece with
  | nil => simp
  | cons next back ih =>
    rw [List.intercalate_cons_cons, ih]
    simp

theorem intercalate_append_cons (separator : α) (front : List (List α)) (piece : List α)
    (back : List (List α)) : [separator].intercalate (front ++ piece :: back) =
      front.flatMap (· ++ [separator]) ++ piece ++ back.flatMap (separator :: ·) := by
  induction front with
  | nil => exact intercalate_cons_eq_flatMap separator piece back
  | cons first front ih =>
    rw [List.cons_append, List.intercalate_cons_of_ne_nil (by simp), ih]
    simp

theorem intercalate_singleton_inj [DecidableEq α] {separator : α} {ws vs : List (List α)}
    (hws : ∀ w ∈ ws, separator ∉ w) (hvs : ∀ v ∈ vs, separator ∉ v) (hwsnil : ws ≠ [])
    (hvsnil : vs ≠ []) (h : [separator].intercalate ws = [separator].intercalate vs) : ws = vs := by
  rw [← List.splitOn_intercalate separator hws hwsnil, h,
    List.splitOn_intercalate separator hvs hvsnil]

theorem intercalate_append_singleton {sep w : List α} {ws : List (List α)}
    (h : ws ≠ []) : sep.intercalate (ws ++ [w]) = sep.intercalate ws ++ (sep ++ w) := by
  induction ws with
  | nil => exact absurd rfl h
  | cons v ws ih =>
    cases ws with
    | nil => simp [List.intercalate_cons_cons]
    | cons u ws =>
      have hrest := ih (by simp)
      simp only [List.cons_append, List.intercalate_cons_cons] at hrest ⊢
      simp only [hrest, List.append_assoc]

theorem getLast?_intercalate {sep w : List α} (hw : w ≠ []) (ws : List (List α)) :
    (sep.intercalate (ws ++ [w])).getLast? = w.getLast? := by
  by_cases hws : ws = []
  · simp [hws]
  · rw [intercalate_append_singleton hws, ← List.append_assoc, List.getLast?_append_of_ne_nil _ hw]

theorem flatMap_eq_flatten_iff {f : List α → List α} {ws : List (List α)}
    (h : ∀ w ∈ ws, (f w).length = w.length) :
    ws.flatMap f = ws.flatten ↔ ∀ w ∈ ws, f w = w := by
  have hlengths : (ws.map f).map List.length = ws.map List.length :=
    List.map_map.trans (List.map_congr_left h)
  calc ws.flatMap f = ws.flatten
    _ ↔ (ws.map f).flatten = ws.flatten ∧ (ws.map f).map List.length = ws.map List.length :=
      (and_iff_left hlengths).symm
    _ ↔ ws.map f = ws.map id := by rw [← List.eq_iff_flatten_eq, List.map_id]
    _ ↔ ∀ w ∈ ws, f w = w := List.map_inj_left

theorem join_map_append {lines : List String} (h : lines ≠ []) (ending : String) :
    String.join (lines.map (· ++ ending)) = ending.intercalate lines ++ ending := by
  induction lines with
  | nil => exact absurd rfl h
  | cons line rest ih =>
    cases rest with
    | nil => simp
    | cons next rest =>
      rw [List.map_cons, String.join_cons, ih (by simp), String.intercalate_cons_cons]
      simp only [String.append_assoc]

end SchemaWriter
