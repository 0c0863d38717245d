import Mathlib.Logic.Function.Basic
import KkmModule.Foundation.PageWalk

/-!
# A tagged translation cache

A processor caches translations of single pages, each filed under the tag that
was current when it was made.  Those of global pages serve every tag and are
filed under none.  `fill` caches what a walk finds, `dropTag` and `dropPage`
invalidate a whole tag or one page of it.

Every entry also carries two records no processor keeps: for whom it was made,
and whether the tables have been changed under it since by the code whose
changes are watched.  `markChanged` keeps the second one.
-/

namespace KkmModule
namespace Foundation

universe u v

/-- The leaf without its accessed and dirty bits, which a walk itself sets. -/
def Leaf.withoutUse (leaf : Leaf) : Leaf :=
  { leaf with entry := leaf.entry &&& ~~~0x60#64 }

/-- Bit 8 of the entry that maps the page. -/
def Leaf.isGlobal (leaf : Leaf) : Bool := leaf.entry.getLsbD 8

/-- What the tables at `root` say about a page. -/
def pageTranslation (m : Memory) (level root page : Nat) : Option Leaf :=
  (walk m level root (page * pageSize)).map Leaf.withoutUse

/-- A cached translation of one page. -/
structure TlbEntry (τ : Type u) (κ : Type v) where
  tag : Option τ
  root : Nat
  page : Nat
  leaf : Leaf
  creator : Option κ
  replaced : Bool
deriving DecidableEq

namespace TlbEntry

section TaggedTlb

variable {τ : Type u} {κ : Type v}

/-- What a translation made under a tag is filed under. -/
def tagOf (tag : τ) (leaf : Leaf) : Option τ :=
  if leaf.isGlobal then none else some tag

/-- The translation of a page is cached, if there is one. -/
def fill
    (m : Memory) (level : Nat) (tag : τ) (root page : Nat) (creator : κ)
    (tlb : List (TlbEntry τ κ)) : List (TlbEntry τ κ) :=
  match pageTranslation m level root page with
  | some leaf => ⟨tagOf tag leaf, root, page, leaf, some creator, false⟩ :: tlb
  | none => tlb

/-- `INVPCID` of a single context. -/
def dropTag [DecidableEq τ] (tag : τ) (tlb : List (TlbEntry τ κ)) : List (TlbEntry τ κ) :=
  tlb.filter fun e => e.tag ≠ some tag

/-- `INVPCID` of one address. -/
def dropPage [DecidableEq τ] (tag : τ) (page : Nat) (tlb : List (TlbEntry τ κ)) :
    List (TlbEntry τ κ) :=
  tlb.filter fun e => ¬ (e.tag = some tag ∧ e.page = page)

/-- A change of the memory from `m` to `m'` changes what the entry's tables say
about its page, and the entry does not hold what they say then. -/
def ChangedBy
    (level : Nat) (m m' : Memory) (creator : κ) (e : TlbEntry τ κ) : Prop :=
  e.creator = some creator ∧
    pageTranslation m' level e.root e.page ≠
      pageTranslation m level e.root e.page ∧
    pageTranslation m' level e.root e.page ≠ some e.leaf

instance [DecidableEq κ]
    (level : Nat) (m m' : Memory) (creator : κ) (e : TlbEntry τ κ) :
    Decidable (e.ChangedBy level m m' creator) := by
  unfold ChangedBy
  infer_instance

/-- The records after a watched change. -/
def markChanged [DecidableEq κ]
    (level : Nat) (m m' : Memory) (creator : κ)
    (tlb : List (TlbEntry τ κ)) : List (TlbEntry τ κ) :=
  tlb.map fun e =>
    { e with replaced := e.replaced || decide (e.ChangedBy level m m' creator) }

/-! ## Which entries there are afterwards -/

theorem tagOf_eq_some {tag t : τ} {leaf : Leaf} (h : tagOf tag leaf = some t) :
    t = tag := by
  unfold tagOf at h
  split at h
  · cases h
  · exact (Option.some.inj h).symm

theorem mem_fill
    {m : Memory} {level : Nat} {tag : τ} {root page : Nat} {creator : κ}
    {tlb : List (TlbEntry τ κ)} {e : TlbEntry τ κ}
    (h : e ∈ fill m level tag root page creator tlb) :
    e ∈ tlb ∨ e.creator = some creator ∧ ∀ t, e.tag = some t → t = tag := by
  unfold fill at h
  split at h
  · rcases List.mem_cons.mp h with rfl | h
    · exact .inr ⟨rfl, fun t => tagOf_eq_some⟩
    · exact .inl h
  · exact .inl h

@[simp] theorem mem_dropTag [DecidableEq τ]
    {tag : τ} {tlb : List (TlbEntry τ κ)} {e : TlbEntry τ κ} :
    e ∈ dropTag tag tlb ↔ e ∈ tlb ∧ e.tag ≠ some tag := by
  simp [dropTag]

@[simp] theorem mem_dropPage [DecidableEq τ]
    {tag : τ} {page : Nat} {tlb : List (TlbEntry τ κ)} {e : TlbEntry τ κ} :
    e ∈ dropPage tag page tlb ↔ e ∈ tlb ∧ ¬ (e.tag = some tag ∧ e.page = page) := by
  unfold dropPage
  rw [List.mem_filter, decide_eq_true_iff]

/-- A marked entry is an old one, with its record brought up to date. -/
theorem mem_markChanged [DecidableEq κ]
    {level : Nat} {m m' : Memory} {creator : κ}
    {tlb : List (TlbEntry τ κ)} {e : TlbEntry τ κ}
    (h : e ∈ markChanged level m m' creator tlb) :
    ∃ old ∈ tlb, e.tag = old.tag ∧ e.creator = old.creator := by
  obtain ⟨old, hold, rfl⟩ := List.mem_map.mp h
  exact ⟨old, hold, rfl, rfl⟩

end TaggedTlb

end TlbEntry

end Foundation
end KkmModule
