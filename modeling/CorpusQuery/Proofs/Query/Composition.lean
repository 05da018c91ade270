import CorpusQuery.Pattern.Standard
import CorpusQuery.Proofs.Query.Behind
import CorpusQuery.Proofs.Query.RoundTrip

namespace CorpusQuery

/-!
# Queries behind each other

A text that is read as a query, a separator and a further text are read together.
With the separator of phrases the two queries stand side by side.  With the
separator of words the last phrase of the first and the first phrase of the second
become one, and with that of sets the words that meet become one as well.  A fault
of the further text stays what it is, at its place behind the front.

Reading the whole goes through the first text as before.  The separator is met by
the loop of its own level, while the loops around it still have their last members
open.  From there on the whole and the further text alone are read side by side
(`Resumes`): the loops differ only in what they hold already.
-/

namespace Grammar

/-- Two lists, with the last member of the first and the first member of the second
made one. -/
def joined {α : Type} (merge : α -> α -> α) : List α -> List α -> List α
  | [], second => second
  | [last], [] => [last]
  | [last], first :: rest => merge last first :: rest
  | item :: next :: rest, second => item :: joined merge (next :: rest) second

theorem joined_concat {α : Type} (merge : α -> α -> α) (front : List α) (last first : α)
    (rest : List α) :
    joined merge (front ++ [last]) (first :: rest) = front ++ merge last first :: rest := by
  induction front with
  | nil => rfl
  | cons item front ih =>
      cases front with
      | nil => rfl
      | cons next front =>
          rw [List.cons_append, List.cons_append, joined, <- List.cons_append, ih]
          rfl

/-- What comes behind the second list stays behind it. -/
theorem joined_append {α : Type} (merge : α -> α -> α) (front : List α) {second : List α}
    (nonempty : second ≠ []) (rest : List α) :
    joined merge front (second ++ rest) = joined merge front second ++ rest := by
  cases second with
  | nil => exact False.elim (nonempty rfl)
  | cons first second =>
      rcases List.eq_nil_or_concat front with rfl | ⟨others, last, rfl⟩
      · rfl
      · rw [List.concat_eq_append, List.cons_append, joined_concat, joined_concat,
          List.append_assoc, List.cons_append]

/-- The sets of one word and then those of another, without repetitions. -/
def mergedSets (sets others : List (List Term)) : List (List Term) :=
  (sets ++ others).eraseDups

/-- Further members up to the last one. -/
theorem Further.last_cases {α : Type} {separator : Mark} {member : List Token -> α -> Prop}
    {tokens : List Token} {items : List α} (further : Further separator member tokens items) :
    (tokens = [] ∧ items = []) ∨
      Exists fun front => Exists fun mark => Exists fun others => Exists fun init =>
        Exists fun last => tokens = front ++ mark :: others ∧ items = init ++ [last] ∧
          Further separator member front init ∧ mark.kind = .mark separator ∧
            member others last := by
  induction further with
  | none => exact Or.inl ⟨rfl, rfl⟩
  | @more mark tokens rest item items separates first later ih =>
      right
      rcases ih with ⟨rfl, rfl⟩ | ⟨front, mark', others, init, last, rfl, rfl, before, found⟩
      · exact ⟨[], mark, tokens, [], item, by rw [List.append_nil]; rfl, rfl, .none, separates,
          first⟩
      · refine ⟨mark :: (tokens ++ front), mark', others, item :: init, last, ?_, rfl,
          .more separates first before, found⟩
        rw [List.cons_append, List.append_assoc]

end Grammar

/-! ## Going on behind a separator -/

namespace Pairing

open CorpusQuery.Parser ParseM Likeness

variable {α β κ : Type} (pairing : Pairing)

/-- A reader that has an item open when it comes to some place reads on as if it
started there, and what it returns then is made of the item and of what it would
return by itself. -/
def Resumes (reader : ParseM α) (derives : List Token -> α -> Prop) (place entry : Scanner)
    (join : α -> α -> α -> Prop) : Prop :=
  forall ⦃scanner : Scanner⦄ ⦃tokens : List Token⦄ ⦃item : α⦄, derives tokens item ->
    Scanner.Steps scanner tokens place -> forall ⦃start : Scanner⦄, pairing.scanners start entry ->
      pairing.Agrees (join item) (reader.runOn start) (reader.runOn scanner)

theorem Resumes.congr {reader : ParseM α} {derives other : List Token -> α -> Prop}
    {place entry : Scanner} {join : α -> α -> α -> Prop}
    (resumes : pairing.Resumes reader derives place entry join)
    (same : forall ⦃tokens item⦄, other tokens item -> derives tokens item) :
    pairing.Resumes reader other place entry join := by
  intro scanner tokens item derived
  exact resumes (same derived)

section Levels

variable {separator : Mark} {member : ParseM α} {derives : List Token -> α -> Prop}
  {start : α -> β} {add : β -> α -> β} {follow : List Mark} {place entry : Scanner} {mark : Token}

/-- At a separator of the level itself its loop goes on with a new member. -/
theorem level_resumes (sound : Sound member derives) (inside : Inside derives)
    (complete : Complete member derives follow) (apart : separator ∉ follow)
    (mirrors : pairing.Mirrors member) (read : place.next = (.ok mark, entry))
    (separates : mark.kind = .mark separator) {join : β -> β -> β -> Prop}
    (first : forall {tokens whole} item, Assembled separator derives start add tokens whole ->
      join whole (start item) (add whole item))
    (more : forall {whole other result} item, join whole other result ->
      join whole (add other item) (add result item)) :
    pairing.Resumes (level separator member start add) (Assembled separator derives start add) place
      entry join := by
  intro scanner tokens whole assembled steps scanner' alike
  have stops : StopsBefore follow place := by
    refine ⟨mark, entry, read, fun other among same => apart ?_⟩
    rw [separates] at same
    cases same
    exact among
  have opening := fun item => first item assembled
  rcases assembled with ⟨one, items, separated, rfl⟩
  rcases level_further sound inside complete apart start separated steps stops with
    ⟨reached, meets, goesOn⟩
  rw [goesOn, loop_separator sound inside (meets.trans read) separates, level_eq]
  apply pairing.agrees_bind (mirrors alike)
  rintro item _ after after' rfl alike
  exact pairing.loop_agrees sound inside mirrors more alike (opening item)

/-- The last member of a whole goes on behind the separator, and then its loop. -/
theorem last_resumes (sound : Sound member derives) (inside : Inside derives)
    (mirrors : pairing.Mirrors member) {view : β -> List κ} {key : α -> κ} {merge : κ -> κ -> κ}
    (view_start : forall item, view (start item) = [key item])
    (view_add : forall whole item, view (add whole item) = view whole ++ [key item])
    (resumes : pairing.Resumes member derives place entry fun item other result =>
      key result = merge (key item) (key other))
    {front : List κ} {init : α -> β}
    (view_init : forall item, view (init item) = front ++ [key item])
    {last : α} {tokens : List Token} {scanner scanner' : Scanner} (derived : derives tokens last)
    (steps : Scanner.Steps scanner tokens place) (alike : pairing.scanners scanner' entry) :
    pairing.Agrees
      (fun other result => view result = Grammar.joined merge (view (init last)) (view other))
      ((level separator member start add).runOn scanner')
      (ParseM.runOn (member >>= fun item => loop separator member add (init item)) scanner) := by
  have agrees : pairing.Agrees
      (fun other result => view other ≠ [] ∧
        view result = Grammar.joined merge (view (init last)) (view other))
      ((level separator member start add).runOn scanner')
      (ParseM.runOn (member >>= fun item => loop separator member add (init item)) scanner) := by
    rw [level_eq]
    apply pairing.agrees_bind (resumes derived steps alike)
    intro item result after after' related alike
    apply pairing.loop_agrees sound inside mirrors _ alike
    · rw [view_start, view_init, view_init, Grammar.joined_concat, related]
      exact ⟨List.cons_ne_nil _ _, rfl⟩
    · rintro other result item ⟨nonempty, same⟩
      rw [view_add, view_add, same, Grammar.joined_append merge _ nonempty]
      exact ⟨List.append_ne_nil_of_left_ne_nil nonempty _, rfl⟩
  exact agrees.mono fun both => both.2

/-- At a separator of an inner level the last member of the level goes on. -/
theorem level_resumes_inside (sound : Sound member derives) (inside : Inside derives)
    (complete : Complete member derives follow) (apart : separator ∉ follow)
    (mirrors : pairing.Mirrors member) {view : β -> List κ} {key : α -> κ} {merge : κ -> κ -> κ}
    (view_start : forall item, view (start item) = [key item])
    (view_add : forall whole item, view (add whole item) = view whole ++ [key item])
    (resumes : pairing.Resumes member derives place entry fun item other result =>
      key result = merge (key item) (key other)) :
    pairing.Resumes (level separator member start add) (Assembled separator derives start add) place
      entry fun whole other result =>
        view result = Grammar.joined merge (view whole) (view other) := by
  intro scanner tokens whole assembled steps scanner' alike
  rcases assembled with ⟨first, items, separated, rfl⟩
  rcases separated with ⟨derived, further⟩
  rcases further.last_cases with
    ⟨rfl, rfl⟩ | ⟨front, mark, others, init, last, rfl, rfl, before, separates, derived'⟩
  · rw [List.append_nil] at steps
    have alone : forall item, view (start item) = [] ++ [key item] := view_start
    exact pairing.last_resumes sound inside mirrors view_start view_add resumes alone derived steps
      alike
  · rw [<- List.append_assoc] at steps
    rcases steps.split with ⟨middle, passed, later⟩
    rcases later with _ | ⟨read, remaining⟩
    have stops : StopsBefore follow middle := by
      refine ⟨mark, _, read, fun other among same => apart ?_⟩
      rw [separates] at same
      cases same
      exact among
    rcases level_further sound inside complete apart start (.intro derived before) passed stops with
      ⟨reached, meets, goesOn⟩
    rw [goesOn, loop_separator sound inside (meets.trans read) separates, List.foldl_concat]
    exact pairing.last_resumes sound inside mirrors view_start view_add resumes
      (view_add (init.foldl add (start first))) derived' remaining alike

end Levels

/-! ## The levels of a query -/

section Nodes

variable {place entry : Scanner} {mark : Token}

theorem tree_push_eraseDups {word : WordPosition} {set : TermSet} {sets : List (List Term)}
    (shown : word.tree = sets.eraseDups) :
    (word.push set).tree = (sets ++ [set.terms]).eraseDups := by
  by_cases member : set.terms ∈ sets
  · rw [eraseDups_concat_of_mem member, <- shown]
    exact WordPosition.tree_push_of_mem (by rw [shown]; exact List.mem_eraseDups.mpr member)
  · rw [eraseDups_concat_of_not_mem member, <- shown]
    refine WordPosition.tree_push_of_not_mem ?_
    rw [shown]
    exact fun among => member (List.mem_eraseDups.mp among)

variable [Pattern.Engine]

/-- A word goes on with sets that it may have already. -/
theorem wordPosition_resumes (read : place.next = (.ok mark, entry))
    (separates : mark.kind = .mark .semicolon) :
    pairing.Resumes wordPosition Grammar.WordNode place entry fun word other result =>
      result.tree = Grammar.mergedSets word.tree other.tree := by
  refine Resumes.congr pairing (pairing.level_resumes termSet_sound setNode_inside termSet_complete
    (by decide) pairing.termSet_mirrors read separates ?_ ?_) fun _ _ => assembled_word.mpr
  · intro tokens word set assembled
    rcases assembled_word.mp assembled with ⟨sets, _, shown⟩
    exact tree_push_eraseDups (by rw [shown, Grammar.collapseWord, Grammar.eraseDups_eraseDups])
  · intro word other result set same
    rw [tree_push_eraseDups same, Grammar.mergedSets]
    by_cases member : set.terms ∈ other.tree
    · rw [WordPosition.tree_push_of_mem member]
      exact eraseDups_concat_of_mem (List.mem_append_right _ member)
    · rw [WordPosition.tree_push_of_not_mem member, List.append_assoc]

theorem phrase_resumes (read : place.next = (.ok mark, entry))
    (separates : mark.kind = .mark .dollar) :
    pairing.Resumes phrase Grammar.PhraseNode place entry fun phrase other result =>
      result.tree = phrase.tree ++ other.tree := by
  refine Resumes.congr pairing (pairing.level_resumes wordPosition_sound wordNode_inside
    wordPosition_complete (by decide) pairing.wordPosition_mirrors read separates ?_ ?_)
    fun _ _ => assembled_phrase.mpr
  · intro tokens phrase word _
    exact Phrase.tree_push phrase word
  · intro phrase other result word same
    rw [Phrase.tree_push, Phrase.tree_push, same, List.append_assoc]

theorem phrase_resumes_inside (read : place.next = (.ok mark, entry))
    (separates : mark.kind = .mark .semicolon) :
    pairing.Resumes phrase Grammar.PhraseNode place entry fun phrase other result =>
      result.tree = Grammar.joined Grammar.mergedSets phrase.tree other.tree :=
  Resumes.congr pairing (pairing.level_resumes_inside wordPosition_sound wordNode_inside
    wordPosition_complete (by decide) pairing.wordPosition_mirrors (fun _ => rfl) Phrase.tree_push
    (pairing.wordPosition_resumes read separates)) fun _ _ => assembled_phrase.mpr

/-- Phrases and the separators between them make a query. -/
theorem query_of_level {join : Query -> Query -> Query -> Prop}
    (resumes : pairing.Resumes (level .bar phrase (fun first => Query.mk first []) Query.push)
      (Assembled .bar Grammar.PhraseNode (fun first => Query.mk first []) Query.push) place entry
      join) :
    pairing.Resumes query Grammar.QueryNode place entry join := by
  intro scanner tokens whole derived steps scanner' alike
  rw [query_eq, query_eq]
  apply pairing.agrees_bind (resumes (assembled_query.mpr derived) steps alike)
  intro other result after after' related alike
  exact pairing.finish_agrees alike related

theorem query_resumes (read : place.next = (.ok mark, entry))
    (separates : mark.kind = .mark .bar) :
    pairing.Resumes query Grammar.QueryNode place entry fun query other result =>
      result.tree = query.tree ++ other.tree := by
  refine pairing.query_of_level (pairing.level_resumes phrase_sound phraseNode_inside phrase_complete
    (by decide) pairing.phrase_mirrors read separates ?_ ?_)
  · intro tokens query phrase _
    exact Query.tree_push query phrase
  · intro query other result phrase same
    rw [Query.tree_push, Query.tree_push, same, List.append_assoc]

theorem query_resumes_inside
    {merge : List (List (List Term)) -> List (List (List Term)) -> List (List (List Term))}
    (resumes : pairing.Resumes phrase Grammar.PhraseNode place entry fun phrase other result =>
      result.tree = merge phrase.tree other.tree) :
    pairing.Resumes query Grammar.QueryNode place entry fun query other result =>
      result.tree = Grammar.joined merge query.tree other.tree :=
  pairing.query_of_level (pairing.level_resumes_inside phrase_sound phraseNode_inside phrase_complete
    (by decide) pairing.phrase_mirrors (fun _ => rfl) Query.tree_push resumes)

end Nodes
end Pairing

/-! ## Texts behind each other -/

theorem Token.Spaced.eq_nil_of_blank {offset : Nat} {tokens : List Token} {chars : List Char}
    (spaced : Spaced offset tokens chars) (blank : chars.all Text.isBlank = true) :
    tokens = [] := by
  cases spaced with
  | blank _ => rfl
  | @token _ blanks rest token tokens _ regular _ _ _ =>
      cases raw : token.raw with
      | nil => exact absurd raw regular.raw_ne_nil
      | cons c letters =>
          have among : c ∈ blanks ++ (c :: letters ++ rest) :=
            List.mem_append_right _ (List.mem_append_left _ List.mem_cons_self)
          rw [raw] at blank
          have isBlank := List.all_eq_true.mp blank c among
          rw [regular.isBlank_head raw] at isBlank
          cases isBlank

namespace Query

open CorpusQuery.Parser Scanner

/-- Behind the tokens of a text and a mark the scanner goes on with what follows. -/
theorem exists_entry {text further : String} {tokens : List Token} {ending : Token} (mark : Mark)
    (yields : Yields (.ofText text) tokens ending)
    (visible : further.toList.all Text.isBlank = false) :
    Exists fun place => Exists fun entry => Exists fun token =>
      Steps (.ofText (text ++ String.singleton mark.toChar ++ further)) tokens place ∧
        place.next = (.ok token, entry) ∧ token.kind = .mark mark ∧
          Behind (text ++ String.singleton mark.toChar) (.ofText further) entry := by
  have shown : (text ++ String.singleton mark.toChar ++ further).toList =
      text.toList ++ mark.toChar :: further.toList := by
    simp only [String.toList_append, String.toList_singleton, List.append_assoc, List.cons_append,
      List.nil_append]
  have stands : At (.ofText (text ++ String.singleton mark.toChar ++ further))
      (text.toList ++ mark.toChar :: further.toList) := by
    rw [<- shown]
    exact at_ofText _
  rcases steps_of_spaced yields.spaced stands rfl (endsWord_cons.mpr (isWordChar_toChar mark)) with
    ⟨place, steps, free, ahead⟩
  have input : place.input = text.toList ++ mark.toChar :: further.toList :=
    steps.input.trans shown
  have position : place.position = text.length := by
    have size := congrArg List.length ahead
    rw [rest, input] at size
    simp only [List.length_drop, List.length_append, List.length_cons, String.length_toList] at size
    omega
  let token : Token := ⟨.mark mark, String.singleton mark.toChar, place.position⟩
  have raw : token.raw = [mark.toChar] := by simp [Token.raw, token]
  have stands' : place.At (token.raw ++ further.toList) := ⟨free, by rw [ahead, raw]; rfl⟩
  have read := next_written stands' rfl rfl (by intro impossible; cases impossible)
  refine ⟨place, _, token, steps, read, rfl, ⟨?_, ?_⟩, rfl, Or.inr ⟨?_, rfl, ?_⟩⟩
  · rw [String.toList_append, String.toList_singleton, List.append_assoc]
    exact input
  · simp only [raw, handOut, position, String.length_append, String.length_singleton,
      List.length_cons, List.length_nil]
    rfl
  · simp only [handOut, token, Token.isEnding]
    simp
  · rw [rest_skipBlanks]
    intro none
    change further.toList.dropWhile Text.isBlank = [] at none
    have blank := List.dropWhile_eq_nil_iff.mp none
    rw [List.all_eq_true.mpr blank] at visible
    cases visible

section AnyEngine

variable [Pattern.Engine]

/-- A text without tokens is no query. -/
theorem visible_of_parse {text : String} {query : Query} (accepted : parse text = .ok query) :
    text.toList.all Text.isBlank = false := by
  rcases derived_of_parse accepted with ⟨tokens, ending, yields, tree, derived, _⟩
  have inside := separated_inside (separated_inside (separated_inside
    (separated_inside oneTerm_inside))) derived
  rw [Bool.eq_false_iff]
  intro blank
  exact inside.1 (yields.spaced.eq_nil_of_blank blank)

/-- How the query or the fault of a text shows in the text behind a front. -/
theorem parse_across {text : String} {query : Query} (mark : Mark) (further : String)
    {join : Query -> Query -> Query -> Prop}
    (resumes : forall {place entry token}, place.next = (.ok token, entry) ->
      token.kind = .mark mark ->
        (behindPairing (text ++ String.singleton mark.toChar)).Resumes Parser.query
          Grammar.QueryNode place entry join)
    (accepted : parse text = .ok query) (visible : further.toList.all Text.isBlank = false) :
    (forall other, parse further = .ok other -> Exists fun whole =>
      parse (text ++ String.singleton mark.toChar ++ further) = .ok whole ∧
        join query other whole) ∧
    (forall fault, parse further = .error fault ->
      parse (text ++ String.singleton mark.toChar ++ further) =
        .error (fault.behind (text ++ String.singleton mark.toChar))) := by
  rcases derived_of_parse accepted with ⟨tokens, ending, yields, derived⟩
  rcases exists_entry mark yields visible with ⟨place, entry, token, steps, read, marked, behind⟩
  have agrees := resumes read marked derived steps behind
  unfold parse
  revert agrees
  rcases Parser.query.runOn (.ofText further) with ⟨result, after⟩
  rcases Parser.query.runOn (.ofText (text ++ String.singleton mark.toChar ++ further)) with
    ⟨result', after'⟩
  intro agrees
  cases agrees with
  | items related _ =>
      refine ⟨fun other same => ?_, fun fault impossible => by cases impossible⟩
      cases same
      exact ⟨_, rfl, related⟩
  | faults related =>
      refine ⟨fun other impossible => (by cases impossible), fun fault same => ?_⟩
      cases same
      exact congrArg Except.error related

/-- A query, a separator and a further text: the queries are put together at the
level of the separator, and a fault of the further text is found at its place
behind the front. -/
theorem parse_separated {text further : String} {query : Query}
    (accepted : parse text = .ok query) :
    (forall other, parse further = .ok other ->
      (Exists fun whole => parse (text ++ "|" ++ further) = .ok whole ∧
        whole.tree = query.tree ++ other.tree) ∧
      (Exists fun whole => parse (text ++ "$" ++ further) = .ok whole ∧
        whole.tree = Grammar.joined (· ++ ·) query.tree other.tree) ∧
      (Exists fun whole => parse (text ++ ";" ++ further) = .ok whole ∧
        whole.tree = Grammar.joined (Grammar.joined Grammar.mergedSets) query.tree other.tree)) ∧
    (forall fault, parse further = .error fault -> further.toList.all Text.isBlank = false ->
      forall separator, separator ∈ ["|", "$", ";"] ->
        parse (text ++ separator ++ further) = .error (fault.behind (text ++ separator))) := by
  have bar := fun visible => parse_across .bar further
    (fun read marked => Pairing.query_resumes _ read marked) accepted visible
  have dollar := fun visible => parse_across .dollar further
    (fun read marked => Pairing.query_resumes_inside _ (Pairing.phrase_resumes _ read marked))
    accepted visible
  have semicolon := fun visible => parse_across .semicolon further
    (fun read marked =>
      Pairing.query_resumes_inside _ (Pairing.phrase_resumes_inside _ read marked))
    accepted visible
  constructor
  · intro other read
    have visible := visible_of_parse read
    exact ⟨(bar visible).1 other read, (dollar visible).1 other read,
      (semicolon visible).1 other read⟩
  · intro fault failed visible separator among
    simp only [List.mem_cons, List.not_mem_nil, or_false] at among
    rcases among with rfl | rfl | rfl
    · exact (bar visible).2 fault failed
    · exact (dollar visible).2 fault failed
    · exact (semicolon visible).2 fault failed

end AnyEngine

/-- Two words meet that have a set in common, and a fault inside a later word
counts the characters of the front. -/
theorem parse_separated_of_words :
    let query : Query := ⟨⟨⟨⟨⟨.spelling, "a", false, false⟩, []⟩,
      [⟨⟨.spelling, "b", false, false⟩, []⟩]⟩, []⟩, []⟩
    let other : Query := ⟨⟨⟨⟨⟨.spelling, "b", false, false⟩, []⟩,
      [⟨⟨.spelling, "c", false, false⟩, []⟩]⟩, []⟩, []⟩
    parse "a; b" = .ok query ∧ parse "b;c" = .ok other ∧
      (Exists fun whole => parse ("a; b" ++ ";" ++ "b;c") = .ok whole ∧
        whole.tree = [[[[⟨.spelling, "a", false, false⟩], [⟨.spelling, "b", false, false⟩],
          [⟨.spelling, "c", false, false⟩]]]]) ∧
      parse ("a; b" ++ "$" ++ "x$mor(q)") = .error ⟨.badCategory, "q", "a; b$x$mor(", 11⟩ := by
  intro query other
  have read : (parse "a; b").toOption = some query := by decide +kernel
  have read' : (parse "b;c").toOption = some other := by decide +kernel
  have found : fault? "x$mor(q)" = some ⟨.badCategory, "q", "x$mor(", 6⟩ := by decide +kernel
  have accepted := parse_eq_ok_of_toOption read
  have accepted' := parse_eq_ok_of_toOption read'
  have rejected := parse_of_fault? found
  refine ⟨accepted, accepted', ?_, ?_⟩
  · rcases ((parse_separated accepted).1 other accepted').2.2 with ⟨whole, both, shown⟩
    exact ⟨whole, both, shown.trans (by decide +kernel)⟩
  · exact (parse_separated accepted).2 _ rejected (by decide) "$" (by decide)

end Query
end CorpusQuery
