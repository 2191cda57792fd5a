import RefreshRate.Text.Blank

namespace RefreshRate.Text

/-!
# Lines of a text

No line holds a line feed, and that is all that is asked of a line: such lines are those of
the text in which each of them is followed by a line end.
-/

theorem noFeed_of_mem_splitOn
    {cs piece : List Char}
    (member : piece ∈ cs.splitOn '\n') :
    '\n' ∉ piece := by
  induction cs generalizing piece with
  | nil =>
      cases List.mem_singleton.mp member
      exact List.not_mem_nil
  | cons c cs inductionHypothesis =>
      rw [List.splitOn_cons_eq_if_modifyHead] at member
      split at member
      · rcases List.mem_cons.mp member with rfl | later
        · exact List.not_mem_nil
        · exact inductionHypothesis later
      · rename_i notFeed
        cases pieces : cs.splitOn '\n' with
        | nil =>
            rw [pieces] at member
            cases member
        | cons first others =>
            rw [pieces, List.modifyHead_cons] at member
            rw [pieces] at inductionHypothesis
            rcases List.mem_cons.mp member with rfl | later
            · intro feed
              rcases List.mem_cons.mp feed with rfl | inFirst
              · exact notFeed rfl
              · exact inductionHypothesis List.mem_cons_self inFirst
            · exact inductionHypothesis (List.mem_cons_of_mem first later)

theorem noFeed_of_mem_lines
    {cs line : List Char}
    (member : line ∈ lines cs) :
    '\n' ∉ line := by
  have noFeeds (pieces : List (List Char)) (none : ∀ piece ∈ pieces, '\n' ∉ piece) :
      ∀ line ∈ linesOfPieces pieces, '\n' ∉ line := by
    fun_induction linesOfPieces pieces with
    | case1 =>
        exact none
    | case2 last isEmpty =>
        rintro line ⟨⟩
    | case3 last notEmpty =>
        exact none
    | case4 piece next rest inductionHypothesis =>
        intro line isLine
        rcases List.mem_cons.mp isLine with rfl | later
        · have noFeed := none piece List.mem_cons_self
          unfold dropReturn
          split
          · exact fun feed => noFeed (List.dropLast_subset piece feed)
          · exact noFeed
        · exact
            inductionHypothesis (fun piece later => none piece (List.mem_cons_of_mem _ later))
              line later
  exact noFeeds _ (fun piece => noFeed_of_mem_splitOn) line member

/-- A line with a line end after it comes before the other lines. -/
theorem lines_append_returnFeed
    {line : List Char}
    (noFeed : '\n' ∉ line)
    (rest : List Char) :
    lines (line ++ '\r' :: '\n' :: rest) = line :: lines rest := by
  have noFeedBefore : '\n' ∉ line ++ ['\r'] := by
    simpa using noFeed
  have pieces := List.splitOn_append_cons_self_of_not_mem noFeedBefore rest
  rw [List.append_assoc, List.singleton_append] at pieces
  have dropped : dropReturn (line ++ ['\r']) = line := by
    simp [dropReturn]
  unfold lines
  rw [pieces]
  cases others : rest.splitOn '\n' with
  | nil =>
      exact absurd others (List.splitOn_ne_nil _ _)
  | cons next later =>
      rw [linesOfPieces, dropped]

/-- Lines without line feeds can be put together to a text. -/
theorem lines_flatMap_returnFeed
    {pieces : List (List Char)}
    (noFeed : ∀ piece ∈ pieces, '\n' ∉ piece) :
    lines (pieces.flatMap fun piece => piece ++ ['\r', '\n']) = pieces := by
  induction pieces with
  | nil =>
      rfl
  | cons piece pieces inductionHypothesis =>
      have onwards :=
        inductionHypothesis fun later member => noFeed later (List.mem_cons_of_mem _ member)
      rw [List.flatMap_cons, List.append_assoc]
      exact
        (lines_append_returnFeed (noFeed piece List.mem_cons_self) _).trans
          (congrArg (piece :: ·) onwards)

end RefreshRate.Text
