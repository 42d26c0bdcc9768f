import Courier.Proofs.Http.ServerVariables

/-!
# Paths below a mount point

A request that is served below a mount point tells what is left of its path there. A path consists
of segments, each with a slash in front, and lies below a mount point if it begins with the segments
of the mount point. What is left is then empty or begins with a slash.

The mount point is cut off from every path that begins with its characters, also where it ends
inside a segment of the path. Such a path does not lie below the mount point, and what is left of it
is no path: it begins in the middle of a segment. Every other path is cut as it should be.
-/

namespace Courier.Http

namespace Request

variable {request : Request} {payload : RequestPayload} {replyChannel root path : String}

/-- What is left of a path below a mount point that covers whole segments. A path that does not lie
below the mount point stays whole. -/
def segmentsBelow (root path : String) : String :=
  if path = root ∨ (root ++ "/").toList <+: path.toList then
    String.ofList (path.toList.drop root.toList.length)
  else path

/-- Whether a mount point, which has no slash at its end, ends inside a segment of a path: the path
goes on behind it, and not with a slash. -/
def CutsSegment (root path : String) : Prop :=
  ∃ c rest, path.toList = root.toList ++ c :: rest ∧ c ≠ '/'

/-- Where a path lies with regard to a mount point, with what is left of it there: at the mount
point, in a segment below it, in one that the mount point cuts, or apart from it. -/
inductive Lies (root path : String) : String → Prop
  | here (same : path.toList = root.toList) : Lies root path ""
  | below (rest : List Char) (split : path.toList = root.toList ++ '/' :: rest) :
      Lies root path (String.ofList ('/' :: rest))
  | inside (c : Char) (rest : List Char) (split : path.toList = root.toList ++ c :: rest)
      (other : c ≠ '/') : Lies root path (String.ofList (c :: rest))
  | apart (differ : ¬root.toList <+: path.toList) : Lies root path path

theorem pathBelow_of_append {rest : List Char} (split : path.toList = root.toList ++ rest) :
    pathBelow root path = String.ofList rest := by
  by_cases unmounted : root = ""
  · rw [pathBelow, if_pos unmounted, ← String.toList_inj, split, unmounted]
    simp
  · have isPrefix : root.toList.isPrefixOf path.toList = true := by
      rw [List.isPrefixOf_iff_prefix, split]
      exact List.prefix_append _ _
    rw [pathBelow, if_neg unmounted, if_pos isPrefix, split, List.drop_left]

theorem pathBelow_of_apart (differ : ¬root.toList <+: path.toList) :
    pathBelow root path = path := by
  rw [← List.isPrefixOf_iff_prefix] at differ
  rw [pathBelow, if_neg differ, ite_self]

theorem lies_pathBelow (root path : String) : Lies root path (pathBelow root path) := by
  by_cases begins : root.toList <+: path.toList
  · rcases begins with ⟨rest, split⟩
    rw [pathBelow_of_append split.symm]
    cases rest with
    | nil => exact .here (by simpa using split.symm)
    | cons c rest =>
        by_cases slash : c = '/'
        · subst slash
          exact .below rest split.symm
        · exact .inside c rest split.symm slash
  · rw [pathBelow_of_apart begins]
    exact .apart begins

section Segments

variable {c : Char} {rest : List Char}

theorem segmentsBelow_of_here (same : path.toList = root.toList) :
    segmentsBelow root path = "" := by
  have isRoot : path = root := String.toList_inj.mp same
  rw [segmentsBelow, if_pos (Or.inl isRoot), same, List.drop_length]

theorem segmentsBelow_of_slash (split : path.toList = root.toList ++ '/' :: rest) :
    segmentsBelow root path = String.ofList ('/' :: rest) := by
  have below : (root ++ "/").toList <+: path.toList := by
    rw [split, String.toList_append, List.prefix_append_right_inj]
    exact List.prefix_append ['/'] rest
  rw [segmentsBelow, if_pos (Or.inr below), split, List.drop_left]

theorem segmentsBelow_of_not_below (differ : path ≠ root)
    (notBelow : ¬(root ++ "/").toList <+: path.toList) : segmentsBelow root path = path := by
  rw [segmentsBelow, if_neg]
  rintro (same | below)
  · exact differ same
  · exact notBelow below

theorem segmentsBelow_of_inside (split : path.toList = root.toList ++ c :: rest)
    (other : c ≠ '/') : segmentsBelow root path = path := by
  apply segmentsBelow_of_not_below
  · rintro rfl
    simp at split
  · rw [split, String.toList_append, List.prefix_append_right_inj]
    intro begins
    exact other (List.cons_prefix_cons.mp begins).1.symm

theorem segmentsBelow_of_apart (differ : ¬root.toList <+: path.toList) :
    segmentsBelow root path = path := by
  apply segmentsBelow_of_not_below
  · rintro rfl
    exact differ (List.prefix_refl _)
  · intro begins
    rw [String.toList_append] at begins
    exact differ ((List.prefix_append _ _).trans begins)

theorem not_cutsSegment_of_here (same : path.toList = root.toList) : ¬CutsSegment root path := by
  rintro ⟨c, rest, split, -⟩
  rw [same] at split
  simp at split

theorem not_cutsSegment_of_slash (split : path.toList = root.toList ++ '/' :: rest) :
    ¬CutsSegment root path := by
  rintro ⟨c, other, isOther, differ⟩
  rw [split, List.append_cancel_left_eq, List.cons.injEq] at isOther
  exact differ isOther.1.symm

theorem not_cutsSegment_of_apart (differ : ¬root.toList <+: path.toList) :
    ¬CutsSegment root path := by
  rintro ⟨c, rest, split, -⟩
  apply differ
  rw [split]
  exact List.prefix_append _ _

end Segments

namespace Lies

variable {left : String}

/-- Only a path in which the mount point ends inside a segment is cut otherwise. -/
theorem eq_segmentsBelow_iff (lies : Lies root path left) (rooted : path.toList.head? = some '/') :
    left = segmentsBelow root path ↔ ¬CutsSegment root path := by
  cases lies with
  | here same =>
      exact iff_of_true (segmentsBelow_of_here same).symm (not_cutsSegment_of_here same)
  | below rest split =>
      exact iff_of_true (segmentsBelow_of_slash split).symm (not_cutsSegment_of_slash split)
  | inside c rest split other =>
      refine iff_of_false ?_ (not_not_intro ⟨c, rest, split, other⟩)
      rw [segmentsBelow_of_inside split other]
      -- Were nothing cut off, the path would begin with the character behind the mount point.
      intro whole
      rw [← whole, String.toList_ofList, List.head?_cons, Option.some.injEq] at rooted
      exact other rooted
  | apart differ =>
      exact iff_of_true (segmentsBelow_of_apart differ).symm (not_cutsSegment_of_apart differ)

/-- Only of a path in which the mount point ends inside a segment something is left that is no
path. -/
theorem isPath_iff (lies : Lies root path left) (rooted : path.toList.head? = some '/') :
    left = "" ∨ left.toList.head? = some '/' ↔ ¬CutsSegment root path := by
  cases lies with
  | here same => exact iff_of_true (Or.inl rfl) (not_cutsSegment_of_here same)
  | below rest split => exact iff_of_true (Or.inr (by simp)) (not_cutsSegment_of_slash split)
  | inside c rest split other =>
      refine iff_of_false ?_ (not_not_intro ⟨c, rest, split, other⟩)
      rw [← String.toList_eq_nil_iff]
      simpa using other
  | apart differ => exact iff_of_true (Or.inr rooted) (not_cutsSegment_of_apart differ)

end Lies

theorem find?_pathInfo :
    (request.payload replyChannel root).environ.find? "PATH_INFO" =
      some (request.payload replyChannel root).pathInfo := by
  rw [payload, find?_allVariables_of_server (by decide)]
  simp only [serverVariables, Dict.find?_ofPairs]
  cases request.remote with
  | none => simp
  | some address => simp

/-! ## Main result -/

/-- The payload and its variables tell what is left of the path below the mount point. This is cut
at the end of a segment, and is empty or a path, exactly if the mount point does not end inside a
segment of the path. If it does, then what follows it in the path is left. -/
theorem path_info_is_cut_at_segments_iff (rooted : request.uri.path.toList.head? = some '/')
    (accepted : request.encode replyChannel root = .ok payload) :
    RequestPayload.ofMessage payload.toMessage = .ok payload ∧
    payload.environ.find? "PATH_INFO" = some payload.pathInfo ∧
    (payload.pathInfo = segmentsBelow root request.uri.path ↔
      ¬CutsSegment root request.uri.path) ∧
    (payload.pathInfo = "" ∨ payload.pathInfo.toList.head? = some '/' ↔
      ¬CutsSegment root request.uri.path) ∧
    ∀ rest, request.uri.path.toList = root.toList ++ rest →
      payload.pathInfo = String.ofList rest := by
  rcases encode_eq_ok_iff.mp accepted with ⟨rfl, -⟩
  have lies := lies_pathBelow root request.uri.path
  exact ⟨RequestPayload.ofMessage_toMessage _, find?_pathInfo, lies.eq_segmentsBelow_iff rooted,
    lies.isPath_iff rooted, fun _ => pathBelow_of_append⟩

/-- A request without headers for a path. -/
def asking (path : String) : Request :=
  { method := "GET", uri := ⟨none, none, path, none⟩, headers := .ofPairs [], body := [],
    remote := none }

theorem path_info_is_cut_at_segments_iff_asking :
    ∃ payload, (asking "/app/x").encode "r" "/app" = .ok payload ∧
      ¬CutsSegment "/app" "/app/x" ∧ payload.pathInfo = "/x" ∧
      payload.environ.find? "PATH_INFO" = some "/x" := by
  have accepted := @encode_of_not_form (asking "/app/x") "r" "/app" (by decide)
  have split : "/app/x".toList = "/app".toList ++ '/' :: ['x'] := by decide
  have whole := not_cutsSegment_of_slash split
  rcases path_info_is_cut_at_segments_iff (by decide) accepted with ⟨-, told, cut, -, -⟩
  have left : ((asking "/app/x").payload "r" "/app").pathInfo = "/x" :=
    (cut.mpr whole).trans (segmentsBelow_of_slash split)
  exact ⟨_, accepted, whole, left, left ▸ told⟩

/-- Below `/app`, the path `/apple` leaves the end of its only segment. -/
theorem apple_is_cut_inside_segment :
    ∃ payload, (asking "/apple").encode "r" "/app" = .ok payload ∧ payload.pathInfo = "le" ∧
      payload.environ.find? "PATH_INFO" = some "le" ∧ segmentsBelow "/app" "/apple" = "/apple" ∧
      payload.pathInfo ≠ segmentsBelow "/app" "/apple" ∧
      ¬(payload.pathInfo = "" ∨ payload.pathInfo.toList.head? = some '/') := by
  have accepted := @encode_of_not_form (asking "/apple") "r" "/app" (by decide)
  have split : "/apple".toList = "/app".toList ++ 'l' :: ['e'] := by decide
  have left : ((asking "/apple").payload "r" "/app").pathInfo = "le" := pathBelow_of_append split
  have whole := segmentsBelow_of_inside split (by decide)
  refine ⟨_, accepted, left, ?_, whole, ?_, ?_⟩
  · rw [find?_pathInfo, left]
  · rw [left, whole]
    decide
  · rw [left]
    decide

end Request

end Courier.Http
