/-
# Blocks that are supplied

A block is called with a context, and what it needs of the context is what it reads there itself and what
its own components take from there.  Lowered nodes are sound (`Lowering.Sound`) if every call of a block
gives it what it needs and every block is called.  Lowering nodes one after the other keeps this
(`Lowering.Sound.component`): the blocks are numbered, so that blocks of different components have
different names (`number_eq_of_blockName_eq`).

Along with this goes what the components in a block capture there: it is bound at their places by the
statements of the block (`Bound`).
-/
import ComponentTags.Proofs.Lowered.Reads
import ComponentTags.Proofs.Lowered.Steps

namespace ComponentTags

open Delimiters (standard)

/-! ### Bound names -/

/-- The scope behind a piece of a text. -/
def Piece.scopeBehind (s : Scope) : Piece → Scope
  | .verbatim _ => s
  | .span kind text => ComponentTags.scopeBehind s kind (Span.split standard kind text).body

/-- The scope behind an item of a block. -/
def Item.scopeBehind (s : Scope) : Item → Scope
  | .text content =>
    match pieces standard 0 content with
    | .ok ps => ps.foldl Piece.scopeBehind s
    | .error _ => s
  | .call _ => s

/-- What a component in some items captures is bound at its place by the statements in front of it. -/
def Bound (s : Scope) (items : List Item) : Prop :=
  ∀ front c behind captured, items = front ++ .call c :: behind → c.carrier = .extended captured →
    ∀ n ∈ captured, n ∈ (front.foldl Item.scopeBehind s).names

section Bound

variable {s : Scope} {items : List Item}

lemma bound_nil : Bound s [] := by
  rintro front c behind captured heq
  simp at heq

lemma Bound.text {content : Text} (h : Bound (Item.scopeBehind s (.text content)) items) :
    Bound s (.text content :: items) := by
  rintro front c behind captured heq hcarrier
  cases front with
  | nil => cases heq
  | cons item front =>
    obtain ⟨rfl, rfl⟩ := List.cons.inj heq
    exact h front c behind captured rfl hcarrier

lemma Bound.call {c : Call} (h : Bound s items)
    (hc : ∀ captured, c.carrier = .extended captured → ∀ n ∈ captured, n ∈ s.names) :
    Bound s (.call c :: items) := by
  rintro front d behind captured heq hcarrier
  cases front with
  | nil =>
    obtain ⟨heq, -⟩ := List.cons.inj heq
    obtain rfl := Item.call.inj heq
    exact hc captured hcarrier
  | cons item front =>
    obtain ⟨rfl, rfl⟩ := List.cons.inj heq
    exact h front d behind captured rfl hcarrier

/-- The scope behind closed pieces is the one behind the pieces. -/
lemma foldl_closedPieces {text : Text} {ps : List Piece} (h : Splits text ps) (s : Scope) :
    (closedPieces s ps).foldl Piece.scopeBehind s = (capturePieces standard s ps).scope := by
  induction h generalizing s with
  | nil => rfl
  | character _ _ ih => exact ih s
  | skipped _ _ _ ih => exact ih s
  | @span kind inside rest ps hinside hnot _ ih =>
    obtain ⟨front, body, back, rfl, hsigned⟩ := exists_signed inside
    obtain ⟨-, hsigned', -⟩ := span_replaced hinside hsigned hnot s [] rfl
    have hbehind := scopeBehind_replaced s kind body []
    rw [map_without_nil] at hsigned' hbehind
    simp only [closedPieces, capturePieces, capturePiece_enclosed _ hsigned, List.foldl_cons,
      Piece.scopeBehind, split_enclosed _ hsigned', hbehind]
    exact ih _

lemma scopeBehind_captureIn {content : Text} {r : Captured} (h : captureIn standard s content = .ok r) :
    Item.scopeBehind s (.text r.text) = r.scope := by
  unfold captureIn at h
  split at h
  · cases h
  rename_i ps hps
  cases h
  have hsplits := pieces_eq_ok_iff.mp hps
  simp only [Item.scopeBehind, pieces_eq_ok_iff.mpr (splits_closedPieces hsplits s)]
  exact foldl_closedPieces hsplits s

end Bound

/-! ### Supplied calls -/

variable {low low' high high' : Nat} {needs needs' : Nat → List Text} {keys keys' : List Text}
  {nested : Bool}

/-- A call uses a block with a number above `low` and up to `high`, and gives it what it needs: from
its own captured variables or, in a block, from those of the context there. -/
inductive Call.Supplied (nested : Bool) (low high : Nat) (needs : Nat → List Text)
    (keys : List Text) (c : Call) : Prop
  | absent (hcarrier : c.carrier = .absent)
  | content {number : Nat} {captured : List Text} (hblock : c.block = blockName c.tag number)
      (hlow : low < number) (hhigh : number ≤ high)
      (hcarrier : c.carrier = if nested then .extended captured else .fresh captured)
      (hneeds : ∀ n ∈ needs number, n ∈ captured ∨ nested = true ∧ n ∈ keys)

/-- What a block reads it needs, and so does it need what its components take from its context. -/
structure Block.Supplied (low high : Nat) (needs : Nat → List Text) (b : Block) : Prop where
  numbered : ∃ tag number, b.name = blockName tag number ∧ low < number ∧ number ≤ high ∧
    (∀ n, b.Reads n → n ∈ needs number) ∧
    ∀ c, .call c ∈ b.body → c.Supplied true low high needs (needs number)
  bound : Bound ⟨[], []⟩ b.body

/-- A block is called from some items or from a block that is. -/
inductive Called (items : List Item) (blocks : List Block) : Text → Prop
  | item {c : Call} (hcall : .call c ∈ items) (hcarrier : c.carrier ≠ .absent) :
      Called items blocks c.block
  | block {b : Block} {c : Call} (hblock : b ∈ blocks) (hcalled : Called items blocks b.name)
      (hcall : .call c ∈ b.body) (hcarrier : c.carrier ≠ .absent) : Called items blocks c.block

/-- Lowered nodes whose blocks all get what they need. -/
structure Lowering.Sound (nested : Bool) (low : Nat) (keys : List Text) (l : Lowering) : Prop where
  le : low ≤ l.count
  supplied : ∃ needs, (∀ c, .call c ∈ l.items → c.Supplied nested low l.count needs keys) ∧
    ∀ b ∈ l.blocks, b.Supplied low l.count needs
  called : ∀ b ∈ l.blocks, Called l.items l.blocks b.name

/-- More numbers and more captured variables do not matter. -/
lemma Call.Supplied.widen {c : Call} (h : c.Supplied nested low high needs keys) (hlow : low' ≤ low)
    (hhigh : high ≤ high') (hneeds : ∀ j, low < j → j ≤ high → needs' j = needs j)
    (hkeys : ∀ n ∈ keys, n ∈ keys') : c.Supplied nested low' high' needs' keys' := by
  cases h with
  | absent hcarrier => exact .absent hcarrier
  | @content number captured hblock hlow' hhigh' hcarrier hsupplied =>
    refine .content hblock (by omega) (by omega) hcarrier fun n hn => ?_
    rw [hneeds number hlow' hhigh'] at hn
    exact (hsupplied n hn).imp_right (And.imp_right (hkeys n))

lemma Block.Supplied.widen {b : Block} (h : b.Supplied low high needs) (hlow : low' ≤ low)
    (hhigh : high ≤ high') (hneeds : ∀ j, low < j → j ≤ high → needs' j = needs j) :
    b.Supplied low' high' needs' := by
  obtain ⟨⟨tag, number, hname, hlow', hhigh', hreads, hcalls⟩, hbound⟩ := h
  refine ⟨⟨tag, number, hname, by omega, by omega, ?_, fun c hc => ?_⟩, hbound⟩
  · rwa [hneeds number hlow' hhigh']
  · rw [hneeds number hlow' hhigh']
    exact (hcalls c hc).widen hlow hhigh hneeds fun n hn => hn

lemma Called.mono {items items' : List Item} {blocks blocks' : List Block} {name : Text}
    (h : Called items blocks name) (hitems : ∀ c, .call c ∈ items → .call c ∈ items')
    (hblocks : ∀ b ∈ blocks, b ∈ blocks') : Called items' blocks' name := by
  induction h with
  | item hcall hcarrier => exact .item (hitems _ hcall) hcarrier
  | block hblock _ hcall hcarrier ih => exact .block (hblocks _ hblock) ih hcall hcarrier

/-- What the body of a called block calls is called. -/
lemma Called.inside {b : Block} {items : List Item} {blocks blocks' : List Block} {name : Text}
    (h : Called b.body blocks name) (hb : b ∈ blocks') (hcalled : Called items blocks' b.name)
    (hblocks : ∀ b ∈ blocks, b ∈ blocks') : Called items blocks' name := by
  induction h with
  | item hcall hcarrier => exact .block hb hcalled hcall hcarrier
  | block hblock _ hcall hcarrier ih => exact .block (hblocks _ hblock) ih hcall hcarrier

lemma Lowering.Sound.mono {l : Lowering} (h : l.Sound nested low keys) (hkeys : ∀ n ∈ keys, n ∈ keys') :
    l.Sound nested low keys' := by
  obtain ⟨hle, ⟨needs, hcalls, hblocks⟩, hcalled⟩ := h
  exact ⟨hle, ⟨needs, fun c hc => (hcalls c hc).widen le_rfl le_rfl (fun _ _ _ => rfl) hkeys, hblocks⟩,
    hcalled⟩

lemma Lowering.sound_nil : Lowering.Sound nested low keys ⟨[], [], low⟩ :=
  ⟨le_rfl, ⟨fun _ => [], fun c hc => absurd hc (by simp), fun b hb => absurd hb (by simp)⟩,
    fun b hb => absurd hb (by simp)⟩

lemma Lowering.Sound.text {l : Lowering} (h : l.Sound nested low keys) (content : Text) :
    Lowering.Sound nested low keys { l with items := .text content :: l.items } := by
  obtain ⟨hle, ⟨needs, hcalls, hblocks⟩, hcalled⟩ := h
  refine ⟨hle, ⟨needs, fun c hc => hcalls c (by simpa using hc), hblocks⟩, fun b hb => ?_⟩
  exact (hcalled b hb).mono (fun c hc => .tail _ hc) fun b hb => hb

/-- A component without content uses no block. -/
lemma Lowering.Sound.empty {l : Lowering} (h : l.Sound nested low keys) {c : Call}
    (hcarrier : c.carrier = .absent) :
    Lowering.Sound nested low keys { l with items := .call c :: l.items } := by
  obtain ⟨hle, ⟨needs, hcalls, hblocks⟩, hcalled⟩ := h
  refine ⟨hle, ⟨needs, fun d hd => ?_, hblocks⟩, fun b hb => ?_⟩
  · obtain heq | hd := List.mem_cons.mp hd
    · obtain rfl := Item.call.inj heq
      exact .absent hcarrier
    · exact hcalls d hd
  · exact (hcalled b hb).mono (fun c hc => .tail _ hc) fun b hb => hb

/-- What blocks need, put together: the block with the number `first`, those up to `last`, and those
behind. -/
def joinNeeds (first last : Nat) (all : List Text) (needs needs' : Nat → List Text) (number : Nat) :
    List Text :=
  if number = first then all else if number ≤ last then needs number else needs' number

/-- A component whose content captures `all` and gets it where it stands. -/
lemma Lowering.Sound.component {inner more : Lowering} {all captured : List Text} {tag : Text}
    {values : Table Text (List ValuePart)} (hinner : inner.Sound true (low + 1) all)
    (hreads : ∀ item ∈ inner.items, ∀ n, item.Reads n → n ∈ all) (hbound : Bound ⟨[], []⟩ inner.items)
    (hmore : more.Sound nested inner.count keys)
    (hcaptured : ∀ n ∈ all, n ∈ captured ∨ nested = true ∧ n ∈ keys) :
    Lowering.Sound nested low keys
      ⟨.call ⟨tag, blockName tag (low + 1), values,
          if nested then .extended captured else .fresh captured⟩ :: more.items,
        inner.blocks ++ ⟨blockName tag (low + 1), inner.items⟩ :: more.blocks, more.count⟩ := by
  obtain ⟨hle, ⟨needs, hcalls, hblocks⟩, hcalled⟩ := hinner
  obtain ⟨hle', ⟨needs', hcalls', hblocks'⟩, hcalled'⟩ := hmore
  -- each block needs what it needed among the blocks of the content or of the rest
  let need := joinNeeds (low + 1) inner.count all needs needs'
  have hown : need (low + 1) = all := if_pos rfl
  have hneeds : ∀ j, low + 1 < j → j ≤ inner.count → need j = needs j := fun j hlow hhigh =>
    (if_neg (by omega)).trans (if_pos hhigh)
  have hneeds' : ∀ j, inner.count < j → j ≤ more.count → need j = needs' j := fun j hlow _ =>
    (if_neg (by omega)).trans (if_neg (by omega))
  refine ⟨by simp only; omega, ⟨need, fun c hc => ?_, fun b hb => ?_⟩, fun b hb => ?_⟩
  · obtain heq | hc := List.mem_cons.mp hc
    · obtain rfl := Item.call.inj heq
      exact .content rfl (by omega) (by simp only; omega) rfl (by rwa [hown])
    · exact (hcalls' c hc).widen (by omega) le_rfl hneeds' fun n hn => hn
  · simp only [List.mem_append, List.mem_cons] at hb
    obtain hb | rfl | hb := hb
    · exact (hblocks b hb).widen (by omega) hle' hneeds
    · refine ⟨⟨tag, low + 1, rfl, by omega, by simp only; omega, ?_, fun c hc => ?_⟩, hbound⟩
      · rintro n ⟨item, hitem, hn⟩
        exact hown ▸ hreads item hitem n hn
      · rw [hown]
        exact (hcalls c hc).widen (by omega) hle' hneeds fun n hn => hn
    · exact (hblocks' b hb).widen (by omega) le_rfl hneeds'
  · have hself : ∀ {items : List Item} {blocks : List Block}, Called
        (.call ⟨tag, blockName tag (low + 1), values,
          if nested then .extended captured else .fresh captured⟩ :: items) blocks
        (blockName tag (low + 1)) := by
      intro items blocks
      refine .item (.head _) ?_
      cases nested <;> simp
    simp only [List.mem_append, List.mem_cons] at hb
    obtain hb | rfl | hb := hb
    · have hmem : (⟨blockName tag (low + 1), inner.items⟩ : Block) ∈
          inner.blocks ++ ⟨blockName tag (low + 1), inner.items⟩ :: more.blocks := by simp
      exact (hcalled b hb).inside hmem hself fun b hb => List.mem_append_left _ hb
    · exact hself
    · exact (hcalled' b hb).mono (fun c hc => .tail _ hc) fun b hb => by simp [hb]

end ComponentTags
