import SearchExport.Message.Decoration

/-!
# The order of decorators

Decorators are applied by ascending order, those of equal order as they are listed.  Decorators read what
others have written, so the order of application shows in the messages; how the list is arranged otherwise
does not.

* `Relisted` — the same decorators in another arrangement, those of equal order as they were.
* `eq_of_ascending` — there is one arrangement by ascending order; `inApplicationOrder_eq` — decorators are
  applied in it.
* `inApplicationOrder_append` — decorators of higher order come last.
* `decorateChunk_by_order` — decorating a chunk.
-/

set_option autoImplicit false

namespace SearchExport

/-! ## Arrangements -/

/-- The decorators of one order, as they are listed. -/
def decoratorsOf (order : Int32) (ds : List Decorator) : List Decorator :=
  ds.filter fun d => d.order = order

/-- No decorator stands before one of lower order. -/
def Ascending (ds : List Decorator) : Prop := ds.Pairwise fun d d' => d.order ≤ d'.order

/-- The same decorators in another arrangement, which keeps those of equal order as they are listed. -/
structure Relisted (ds ds' : List Decorator) : Prop where
  perm : ds.Perm ds'
  ties : ∀ order, decoratorsOf order ds = decoratorsOf order ds'

theorem mem_decoratorsOf {order : Int32} {d : Decorator} {ds : List Decorator} :
    d ∈ decoratorsOf order ds ↔ d ∈ ds ∧ d.order = order := by
  rw [decoratorsOf, List.mem_filter, decide_eq_true_eq]

theorem decoratorsOf_append (order : Int32) (ds ds' : List Decorator) :
    decoratorsOf order (ds ++ ds') = decoratorsOf order ds ++ decoratorsOf order ds' :=
  List.filter_append _ _

theorem decoratorsOf_cons_self (d : Decorator) (ds : List Decorator) :
    decoratorsOf d.order (d :: ds) = d :: decoratorsOf d.order ds :=
  List.filter_cons_of_pos (decide_eq_true rfl)

theorem decoratorsOf_cons_of_ne {order : Int32} {d : Decorator} (h : d.order ≠ order)
    (ds : List Decorator) : decoratorsOf order (d :: ds) = decoratorsOf order ds :=
  List.filter_cons_of_neg (by simpa using h)

namespace Relisted

variable {ds ds' ds'' : List Decorator}

theorem symm (h : Relisted ds ds') : Relisted ds' ds := ⟨h.perm.symm, fun order => (h.ties order).symm⟩

theorem trans (h : Relisted ds ds') (h' : Relisted ds' ds'') : Relisted ds ds'' :=
  ⟨h.perm.trans h'.perm, fun order => (h.ties order).trans (h'.ties order)⟩

theorem append {es es' : List Decorator} (h : Relisted ds ds') (h' : Relisted es es') :
    Relisted (ds ++ es) (ds' ++ es') where
  perm := h.perm.append h'.perm
  ties order := by rw [decoratorsOf_append, decoratorsOf_append, h.ties, h'.ties]

theorem of_cons {d : Decorator} (h : Relisted (d :: ds) (d :: ds')) : Relisted ds ds' where
  perm := h.perm.cons_inv
  ties order := by
    have hties := h.ties order
    by_cases horder : d.order = order
    · subst horder
      rwa [decoratorsOf_cons_self, decoratorsOf_cons_self, List.cons.injEq, and_iff_right rfl] at hties
    · rwa [decoratorsOf_cons_of_ne horder, decoratorsOf_cons_of_ne horder] at hties

/-- Two neighbours of different order may change places. -/
theorem swap {d e : Decorator} (h : d.order ≠ e.order) (ds es : List Decorator) :
    Relisted (ds ++ d :: e :: es) (ds ++ e :: d :: es) where
  perm := (List.Perm.swap e d es).append_left ds
  ties order := by
    rw [decoratorsOf_append, decoratorsOf_append]
    by_cases hd : d.order = order
    · subst hd
      rw [decoratorsOf_cons_self, decoratorsOf_cons_of_ne h.symm, decoratorsOf_cons_of_ne h.symm,
        decoratorsOf_cons_self]
    · by_cases he : e.order = order
      · subst he
        rw [decoratorsOf_cons_of_ne h, decoratorsOf_cons_self, decoratorsOf_cons_self,
          decoratorsOf_cons_of_ne h]
      · rw [decoratorsOf_cons_of_ne hd, decoratorsOf_cons_of_ne he, decoratorsOf_cons_of_ne he,
          decoratorsOf_cons_of_ne hd]

end Relisted

instance (ds : List Decorator) : Decidable (Ascending ds) :=
  inferInstanceAs (Decidable (ds.Pairwise fun d d' => d.order ≤ d'.order))

theorem Ascending.of_cons {d : Decorator} {ds : List Decorator} (h : Ascending (d :: ds)) : Ascending ds :=
  List.Pairwise.of_cons h

/-- The first of ascending decorators has the lowest order of all, however they are listed. -/
theorem Ascending.head_le {d : Decorator} {ds es : List Decorator} (h : Ascending (d :: ds))
    (hperm : (d :: ds).Perm es) {e : Decorator} (he : e ∈ es) : d.order ≤ e.order := by
  obtain rfl | hmem := List.mem_cons.1 (hperm.mem_iff.2 he)
  · exact Int32.le_refl _
  · exact List.rel_of_pairwise_cons h hmem

/-- **There is one arrangement by ascending order** that keeps decorators of equal order as they are listed. -/
theorem eq_of_ascending {ds ds' : List Decorator} (h : Ascending ds) (h' : Ascending ds')
    (hrelisted : Relisted ds ds') : ds = ds' := by
  induction ds generalizing ds' with
  | nil => exact hrelisted.perm.nil_eq
  | cons d ds ih =>
    cases ds' with
    | nil => exact absurd hrelisted.perm.symm.nil_eq nofun
    | cons d' ds' =>
      -- both stand first, so neither is of higher order, and the ties say that they are the same
      have hle : d.order ≤ d'.order := h.head_le hrelisted.perm List.mem_cons_self
      have hge : d'.order ≤ d.order := h'.head_le hrelisted.perm.symm List.mem_cons_self
      have horder : d.order = d'.order := Int32.le_antisymm hle hge
      have hties := hrelisted.ties d.order
      rw [decoratorsOf_cons_self, horder, decoratorsOf_cons_self, List.cons.injEq] at hties
      obtain rfl := hties.1
      rw [ih h.of_cons h'.of_cons hrelisted.of_cons]

/-! ## Application order -/

theorem order_trans (a b c : Decorator) (hab : decide (a.order ≤ b.order) = true)
    (hbc : decide (b.order ≤ c.order) = true) : decide (a.order ≤ c.order) = true :=
  decide_eq_true (Int32.le_trans (of_decide_eq_true hab) (of_decide_eq_true hbc))

theorem order_total (a b : Decorator) :
    (decide (a.order ≤ b.order) || decide (b.order ≤ a.order)) = true := by
  simpa using Int32.le_total a.order b.order

theorem inApplicationOrder_perm (ds : List Decorator) : (inApplicationOrder ds).Perm ds :=
  List.mergeSort_perm ds _

theorem ascending_inApplicationOrder (ds : List Decorator) : Ascending (inApplicationOrder ds) :=
  (List.pairwise_mergeSort order_trans order_total ds).imp of_decide_eq_true

/-- Sorting is stable: decorators of equal order stay as they are listed. -/
theorem decoratorsOf_inApplicationOrder (order : Int32) (ds : List Decorator) :
    decoratorsOf order (inApplicationOrder ds) = decoratorsOf order ds := by
  have hequal : (decoratorsOf order ds).Pairwise fun a b => decide (a.order ≤ b.order) = true := by
    refine List.pairwise_of_forall_mem_list fun a ha b hb => decide_eq_true ?_
    rw [(mem_decoratorsOf.1 ha).2, (mem_decoratorsOf.1 hb).2]
    exact Int32.le_refl _
  have hsublist : (decoratorsOf order ds).Sublist (inApplicationOrder ds) :=
    List.sublist_mergeSort order_trans order_total hequal List.filter_sublist
  have hfiltered : (decoratorsOf order ds).Sublist (decoratorsOf order (inApplicationOrder ds)) := by
    have hall : decoratorsOf order (decoratorsOf order ds) = decoratorsOf order ds :=
      List.filter_eq_self.2 fun d hd => decide_eq_true (mem_decoratorsOf.1 hd).2
    have hagain := hsublist.filter fun d => decide (d.order = order)
    exact hall ▸ hagain
  have hlength := ((inApplicationOrder_perm ds).filter fun d => decide (d.order = order)).length_eq
  exact (hfiltered.eq_of_length hlength.symm).symm

theorem relisted_inApplicationOrder (ds : List Decorator) : Relisted (inApplicationOrder ds) ds :=
  ⟨inApplicationOrder_perm ds, fun order => decoratorsOf_inApplicationOrder order ds⟩

/-- **Decorators are applied** in the arrangement by ascending order. -/
theorem inApplicationOrder_eq {ds ds' : List Decorator} (h : Ascending ds') (hrelisted : Relisted ds' ds) :
    inApplicationOrder ds = ds' :=
  eq_of_ascending (ascending_inApplicationOrder ds) h ((relisted_inApplicationOrder ds).trans hrelisted.symm)

theorem inApplicationOrder_congr {ds ds' : List Decorator} (h : Relisted ds ds') :
    inApplicationOrder ds = inApplicationOrder ds' :=
  inApplicationOrder_eq (ascending_inApplicationOrder ds') ((relisted_inApplicationOrder ds').trans h.symm)

/-- **Decorators of higher order come last.** -/
theorem inApplicationOrder_append {ds ds' : List Decorator}
    (h : ∀ d ∈ ds, ∀ d' ∈ ds', d.order ≤ d'.order) :
    inApplicationOrder (ds ++ ds') = inApplicationOrder ds ++ inApplicationOrder ds' := by
  refine inApplicationOrder_eq (List.pairwise_append.2
    ⟨ascending_inApplicationOrder ds, ascending_inApplicationOrder ds', fun d hd d' hd' => ?_⟩)
    ((relisted_inApplicationOrder ds).append (relisted_inApplicationOrder ds'))
  exact h d (List.mem_mergeSort.1 hd) d' (List.mem_mergeSort.1 hd')

theorem decorateMessage_append {ds ds' : List Decorator}
    (h : ∀ d ∈ ds, ∀ d' ∈ ds', d.order ≤ d'.order) (m : Message) :
    decorateMessage (ds ++ ds') m = decorateMessage ds' (decorateMessage ds m) := by
  rw [decorateMessage, inApplicationOrder_append h, List.foldl_append]
  rfl

/-! ## Chunks -/

/-- **Decorators run by order and compose**, for every chunk.  The decorators of a list are applied to each
message one after the other, in the arrangement by ascending order.  So lists that differ only in how
decorators of different order are arranged make the same chunk; decorators of which none is of lower order
than those before can be applied afterwards; and the messages are decorated one by one, wherever the chunk is
cut. -/
theorem decorateChunk_by_order (c : Chunk) :
    (∀ ds arranged, Ascending arranged → Relisted arranged ds →
      decorateChunk ds c =
        c.withMessages (c.messages.map (arranged.foldl fun m d => d.decoration.apply m))) ∧
    (∀ ds ds', Relisted ds ds' → decorateChunk ds c = decorateChunk ds' c) ∧
    (∀ ds ds', (∀ d ∈ ds, ∀ d' ∈ ds', d.order ≤ d'.order) →
      decorateChunk (ds ++ ds') c = decorateChunk ds' (decorateChunk ds c)) ∧
    ∀ ds ms ms', decorateChunk ds (c.withMessages (ms ++ ms')) =
      c.withMessages ((decorateChunk ds (c.withMessages ms)).messages ++
        (decorateChunk ds (c.withMessages ms')).messages) := by
  refine ⟨fun ds arranged hascending hrelisted => ?_, fun ds ds' hrelisted => ?_, fun ds ds' hle => ?_,
    fun ds ms ms' => ?_⟩
  · have hmessage : decorateMessage ds = arranged.foldl fun m d => d.decoration.apply m := by
      funext m
      rw [decorateMessage, inApplicationOrder_eq hascending hrelisted]
    rw [decorateChunk, hmessage]
    rfl
  · have hmessage : decorateMessage ds = decorateMessage ds' := by
      funext m
      rw [decorateMessage, inApplicationOrder_congr hrelisted, decorateMessage]
    rw [decorateChunk, hmessage, decorateChunk]
  · have hmessage : decorateMessage (ds ++ ds') = decorateMessage ds' ∘ decorateMessage ds :=
      funext (decorateMessage_append hle)
    simp only [decorateChunk, hmessage, List.map_map]
  · simp only [decorateChunk, Chunk.withMessages, List.map_append]

/-- A rename before a severity is named and a text made of both, listed in two ways. -/
theorem decorateChunk_by_order_of_rename :
    let rename : Decorator := ⟨none, -1, .fieldRename "level" "severity"⟩
    let name : Decorator := ⟨none, 2, .syslogSeverity "severity" "severity"⟩
    let text : Decorator := ⟨none, 2, .formatString "message" "$\x7bseverity\x7d" false⟩
    let c : Chunk := ⟨["message"], [⟨"graylog_0", .ofList [("level", .ofNat 4), ("message", .string "Ha")]⟩], true⟩
    Relisted [name, rename, text] [rename, name, text] ∧
      decorateChunk [name, rename, text] c = decorateChunk [rename, name, text] c ∧
      decorateChunk [rename, name, text] c = decorateChunk [name, text] (decorateChunk [rename] c) ∧
      (decorateChunk [name, rename, text] c).messages.map (fun m => m.fields.names) =
        [["message", "severity"]] := by
  intro rename name text c
  have hrelisted : Relisted [name, rename, text] [rename, name, text] :=
    .swap (by decide) [] [text]
  have hlaws := decorateChunk_by_order c
  refine ⟨hrelisted, hlaws.2.1 _ _ hrelisted, hlaws.2.2.1 [rename] [name, text] (by decide), ?_⟩
  rw [hlaws.1 _ [rename, name, text] (by decide) hrelisted.symm]
  decide

end SearchExport
