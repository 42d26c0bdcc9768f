import Courier.Proofs.Http.Framing
import Mathlib.Algebra.Order.Floor.Div

/-!
# The shape of framing

How many chunks a body is cut into, how long they are, and which of them announce more content. All
pieces of data are full but the last one, which holds what is left. A body that is known as a whole
ends with its last piece. A streamed body is cut part by part, and as no part is known to be the
last one, the end is a chunk of its own.
-/

namespace Courier.Http

/-! ## Pieces -/

section Pieces

variable {extra : Nat} {data : List UInt8}

theorem length_pieces (extra : Nat) (data : List UInt8) :
    (pieces extra data).length = data.length ⌈/⌉ (extra + 1) := by
  rw [Nat.ceilDiv_eq_add_pred_div]
  induction data using pieces.induct extra with
  | case1 =>
      have none : (0 + (extra + 1) - 1) / (extra + 1) = 0 := Nat.div_eq_of_lt (by omega)
      simp only [pieces, List.length_nil, none]
  | case2 byte rest ih =>
      rw [pieces, List.length_cons, ih, List.length_drop, List.length_cons]
      by_cases filled : extra ≤ rest.length
      · have more : rest.length + 1 + (extra + 1) - 1 =
            rest.length - extra + (extra + 1) - 1 + (extra + 1) := by omega
        rw [more, Nat.add_div_right _ (Nat.succ_pos extra)]
      · -- what is left does not fill a piece, so this is the only one
        have none : (rest.length - extra + (extra + 1) - 1) / (extra + 1) = 0 :=
          Nat.div_eq_of_lt (by omega)
        have one : rest.length + 1 + (extra + 1) - 1 = rest.length + (extra + 1) := by omega
        rw [none, one, Nat.add_div_right _ (Nat.succ_pos extra), Nat.div_eq_of_lt (by omega)]

theorem bounds_of_mem_pieces {piece : List UInt8} (mem : piece ∈ pieces extra data) :
    piece ≠ [] ∧ piece.length ≤ extra + 1 := by
  induction data using pieces.induct extra with
  | case1 => simp [pieces] at mem
  | case2 byte rest ih =>
      rw [pieces, List.mem_cons] at mem
      rcases mem with rfl | mem
      · simp only [List.length_cons, List.length_take]
        exact ⟨List.cons_ne_nil _ _, by omega⟩
      · exact ih mem

/-- In front of another piece every piece is full. -/
theorem length_of_mem_front {front : List (List UInt8)} {last piece : List UInt8}
    (cut : pieces extra data = front ++ [last]) (mem : piece ∈ front) :
    piece.length = extra + 1 := by
  induction data using pieces.induct extra generalizing front with
  | case1 => simp [pieces] at cut
  | case2 byte rest ih =>
      rw [pieces] at cut
      cases front with
      | nil => cases mem
      | cons first others =>
          rw [List.cons_append, List.cons.injEq] at cut
          rcases cut with ⟨isFirst, cut⟩
          rcases List.mem_cons.mp mem with rfl | mem
          · -- another piece follows, so there was enough left for this one
            have more : rest.drop extra ≠ [] := by
              intro nothing
              rw [nothing] at cut
              simp [pieces] at cut
            have long : extra < rest.length := by simpa using more
            rw [← isFirst, List.length_cons, List.length_take]
            omega
          · exact ih cut mem

theorem markLast_concat (front : List (List UInt8)) (last : List UInt8) :
    markLast (front ++ [last]) = front.map (fun piece => (piece, false)) ++ [(last, true)] := by
  induction front with
  | nil => rfl
  | cons piece rest ih =>
      cases rest with
      | nil => rfl
      | cons next others =>
          simp only [List.cons_append, List.map_cons] at ih ⊢
          rw [markLast, ih]

end Pieces

/-! ## Chunks -/

/-- How the bytes of a body that is known as a whole are cut: full chunks that announce more, and a
last one that is empty only if the body is. -/
structure CutAsWhole (limit : Nat) (content : List UInt8) (chunks : List ResponseChunk) :
    Prop where
  count : chunks.length = max 1 (content.length ⌈/⌉ limit)
  bytes : contents chunks = content
  split : ∃ front last, chunks = front ++ [⟨last, false⟩] ∧
    (∀ chunk ∈ front, chunk.content.length = limit ∧ chunk.moreContent = true) ∧
    (last = [] ↔ content = [])

/-- How one part of a streamed body is cut: no chunk is empty, and all announce more. -/
structure CutAsPart (limit : Nat) (part : List UInt8) (chunks : List ResponseChunk) : Prop where
  count : chunks.length = part.length ⌈/⌉ limit
  bytes : contents chunks = part
  more : ∀ chunk ∈ chunks, chunk.content ≠ [] ∧ chunk.moreContent = true

/-- How a body is cut. Behind the parts of a streamed body there is one empty chunk. -/
def CutUp (limit : Nat) (body : Body) (chunks : List ResponseChunk) : Prop :=
  match body with
  | .full content => CutAsWhole limit content chunks
  | .streaming parts =>
      ∃ groups : List (List ResponseChunk), chunks = groups.flatten ++ [⟨[], false⟩] ∧
        List.Forall₂ (CutAsPart limit) parts groups

namespace Body

variable (size : Nat)

theorem cutAsWhole (content : List UInt8) :
    CutAsWhole (max 1 size) content (chunks size (.full content)) := by
  have limit : max 1 size = size - 1 + 1 := by omega
  have bytes := contents_chunks size (.full content)
  cases content with
  | nil => exact ⟨by simp [chunks, chunkBody], bytes, [], [], rfl, by simp, by simp⟩
  | cons byte rest =>
      have nonempty : pieces (size - 1) (byte :: rest) ≠ [] := pieces_ne_nil (List.cons_ne_nil _ _)
      rcases List.eq_nil_or_concat' (pieces (size - 1) (byte :: rest)) with none |
        ⟨front, last, cut⟩
      · exact absurd none nonempty
      · have marked : chunks size (.full (byte :: rest)) =
            front.map (fun piece => ⟨piece, true⟩) ++ [⟨last, false⟩] := by
          simp [chunks, chunkBody, cut, markLast_concat]
        have count := length_pieces (size - 1) (byte :: rest)
        rw [cut, ← limit] at count
        refine ⟨?_, bytes, front.map (fun piece => ⟨piece, true⟩), last, marked, ?_, ?_⟩
        · simp only [List.length_append, List.length_singleton] at count
          rw [marked, ← count]
          simp
        · intro chunk mem
          rcases List.mem_map.mp mem with ⟨piece, isPiece, rfl⟩
          exact ⟨(length_of_mem_front cut isPiece).trans limit.symm, rfl⟩
        · have isPiece : last ∈ pieces (size - 1) (byte :: rest) := by simp [cut]
          exact iff_of_false (bounds_of_mem_pieces isPiece).1 (List.cons_ne_nil _ _)

theorem cutAsPart {part : List UInt8} (nonempty : part ≠ []) :
    CutAsPart (max 1 size) part
      ((chunkBody size part).map fun piece => ⟨piece.1, true⟩) := by
  have limit : max 1 size = size - 1 + 1 := by omega
  have cut : (chunkBody size part).map Prod.fst = pieces (size - 1) part := by
    cases part with
    | nil => exact absurd rfl nonempty
    | cons byte rest => exact map_fst_markLast _
  refine ⟨?_, contents_map_chunkBody size part fun _ => true, ?_⟩
  · rw [List.length_map, ← List.length_map Prod.fst, cut, length_pieces, ← limit]
  · intro chunk mem
    rcases List.mem_map.mp mem with ⟨piece, isPiece, rfl⟩
    have inPieces : piece.1 ∈ pieces (size - 1) part := cut ▸ List.mem_map_of_mem isPiece
    exact ⟨(bounds_of_mem_pieces inPieces).1, rfl⟩

theorem cutAsPart_nil (limit : Nat) : CutAsPart limit [] [] :=
  ⟨by simp, rfl, by simp⟩

/-- The chunks of the parts of a streamed body, with none for a part that is empty. -/
theorem exists_groups (parts : List (List UInt8)) :
    ∃ groups : List (List ResponseChunk),
      ((parts.filter fun part => !part.isEmpty).flatMap fun part =>
        (chunkBody size part).map fun piece => ⟨piece.1, true⟩) = groups.flatten ∧
      List.Forall₂ (CutAsPart (max 1 size)) parts groups := by
  induction parts with
  | nil => exact ⟨[], rfl, .nil⟩
  | cons part rest ih =>
      rcases ih with ⟨groups, chunks, cuts⟩
      cases part with
      | nil => exact ⟨[] :: groups, by simpa using chunks, .cons (cutAsPart_nil _) cuts⟩
      | cons byte tail =>
          refine ⟨_ :: groups, ?_, .cons (cutAsPart size (List.cons_ne_nil byte tail)) cuts⟩
          simp [chunks]

theorem cutUp (body : Body) : CutUp (max 1 size) body (body.chunks size) := by
  cases body with
  | full content => exact cutAsWhole size content
  | streaming parts =>
      rcases exists_groups size parts with ⟨groups, chunks, cuts⟩
      refine ⟨groups, ?_, cuts⟩
      rw [Body.chunks, chunks]
      rfl

theorem length_of_mem_chunkBody {data : List UInt8} {piece : List UInt8 × Bool}
    (mem : piece ∈ chunkBody size data) : piece.1.length ≤ max 1 size := by
  have inPieces : piece.1 ∈ (chunkBody size data).map Prod.fst := List.mem_map_of_mem mem
  cases data with
  | nil => simp_all [chunkBody]
  | cons byte rest =>
      rw [chunkBody, map_fst_markLast] at inPieces
      · have bound := (bounds_of_mem_pieces inPieces).2
        omega
      · exact List.cons_ne_nil _ _

theorem length_of_mem_chunks {body : Body} {chunk : ResponseChunk}
    (mem : chunk ∈ body.chunks size) : chunk.content.length ≤ max 1 size := by
  cases body with
  | full content =>
      rcases List.mem_map.mp mem with ⟨piece, isPiece, rfl⟩
      exact length_of_mem_chunkBody size isPiece
  | streaming parts =>
      rw [chunks, List.mem_append, List.mem_singleton] at mem
      rcases mem with mem | rfl
      · rcases List.mem_flatMap.mp mem with ⟨part, _, mem⟩
        rcases List.mem_map.mp mem with ⟨piece, isPiece, rfl⟩
        exact length_of_mem_chunkBody size isPiece
      · exact Nat.zero_le _

end Body

/-! ## Main result -/

/-- A response is framed as one start and chunks of at most as many bytes as allowed, but of one at
least. A body of `n` bytes makes `⌈n / limit⌉` chunks, at least one, all full and announcing more
but the last one, which is empty only for an empty body. A streamed body makes, part by part, as many
chunks as each part needs, none of them empty and all announcing more, and one empty chunk at the
end. -/
theorem Response.framing_has_shape (response : Response) (chunkSize : Nat) :
    ∃ chunks : List ResponseChunk,
      response.encode chunkSize =
        (ResponseMessage.start response.start :: chunks.map .chunk).map
          ResponseMessage.toMessage ∧
      (∀ chunk ∈ chunks, chunk.content.length ≤ max 1 chunkSize) ∧
      CutUp (max 1 chunkSize) response.body chunks := by
  refine ⟨response.body.chunks chunkSize, rfl, ?_, ?_⟩
  · intro chunk mem
    exact Body.length_of_mem_chunks chunkSize mem
  · exact Body.cutUp chunkSize response.body

/-- A size of zero counts as one, and an empty part leaves no trace. -/
example : Body.chunks 0 (.streaming [[1, 2], [], [3]]) =
    [⟨[1], true⟩, ⟨[2], true⟩, ⟨[3], true⟩, ⟨[], false⟩] := by cbv

end Courier.Http
