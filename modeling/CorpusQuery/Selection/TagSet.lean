namespace CorpusQuery

/-!
# Part-of-speech codes

The codes that the store knows form a set, kept in increasing order by code
point.  An empty set means that the store supplied none.
-/

structure TagSet where
  codes : List String
  increasing : codes.Pairwise (· < ·)

namespace TagSet

def empty : TagSet :=
  ⟨[], .nil⟩

/-- Put a code in its place unless it is there. -/
def insertInto (code : String) : List String -> List String
  | [] => [code]
  | head :: rest =>
    if code < head then code :: head :: rest
    else if code = head then head :: rest
    else head :: insertInto code rest

theorem mem_insertInto {code member : String} {codes : List String} :
    member ∈ insertInto code codes <-> member = code ∨ member ∈ codes := by
  induction codes with
  | nil => simp [insertInto]
  | cons head rest ih =>
    unfold insertInto
    split
    · simp
    · split
      next same => subst same; simp
      · simp [ih, or_left_comm]

theorem insertInto_increasing {code : String} {codes : List String}
    (increasing : codes.Pairwise (· < ·)) : (insertInto code codes).Pairwise (· < ·) := by
  induction codes with
  | nil => simp [insertInto]
  | cons head rest ih =>
    obtain ⟨above, tail⟩ := List.pairwise_cons.1 increasing
    unfold insertInto
    split
    next below =>
      refine List.pairwise_cons.2 ⟨fun member present => ?_, increasing⟩
      rcases List.mem_cons.1 present with same | later
      · exact same ▸ below
      · exact String.lt_trans below (above member later)
    next notBelow =>
      split
      · exact increasing
      next different =>
        refine List.pairwise_cons.2 ⟨fun member present => ?_, ih tail⟩
        rcases mem_insertInto.1 present with same | later
        · subst same
          exact Std.lt_of_le_of_ne (Std.not_lt.1 notBelow) (Ne.symm different)
        · exact above member later

def insert (set : TagSet) (code : String) : TagSet :=
  ⟨insertInto code set.codes, insertInto_increasing set.increasing⟩

def ofList (codes : List String) : TagSet :=
  codes.foldl insert empty

def isEmpty (set : TagSet) : Bool :=
  set.codes.isEmpty

end TagSet

end CorpusQuery
