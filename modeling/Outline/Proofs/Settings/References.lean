import Outline.Dotenv
import Outline.Proofs.Lookup

/-!
# References to variables

Which variables a text asks of the environment is told by the text alone: those to which a value
refers that no line before it binds. An environment counts only by what it has for these.
-/

namespace Outline.Dotenv

/-! ### Values -/

/-- The names to which a value refers, in order; `fuel` bounds its characters. -/
def references : (fuel : Nat) → List Char → List String
  | 0, _              => []
  | _ + 1, []         => []
  | fuel + 1, c :: cs =>
    match c, cs with
    | '$', '\x7b' :: rest =>
      match readReference rest with
      | some (name, _, after) => name :: references fuel after
      | none                  => references fuel cs
    | _, _ => references fuel cs

lemma resolve_congr {valueOf other : String → Option String} {fuel : Nat} {cs : List Char}
    (h : ∀ name ∈ references fuel cs, valueOf name = other name) :
    resolve valueOf fuel cs = resolve other fuel cs := by
  fun_induction references fuel cs with
  | case1 cs => rfl
  | case2 fuel => rfl
  | case3 fuel rest name default after href ih =>
    simp only [resolve, href]
    rw [h name List.mem_cons_self, ih fun n hn => h n (List.mem_cons_of_mem _ hn)]
  | case4 fuel rest href ih =>
    simp only [resolve, href]
    rw [ih h]
  | case5 fuel c cs hno ih =>
    rw [resolve.eq_4 _ _ _ _ hno, resolve.eq_4 _ _ _ _ hno, ih h]

/-! ### Lines -/

/-- What the name of a variable stands for after some lines. -/
def valueAfter (environment : List (String × String)) (done : List Binding) (name : String) :
    Option String :=
  match done.lookup name with
  | some value => some (value.getD "")
  | none       => environment.lookup name

/-- The bindings after one more line. -/
def bindLine (environment : List (String × String)) (done : List Binding) (line : Binding) :
    List Binding :=
  let resolved := line.2.map fun value =>
    String.ofList (resolve (valueAfter environment done) (value.length + 1) value.toList)
  if (done.lookup line.1).isSome then
    done.map fun binding => if binding.1 = line.1 then (line.1, resolved) else binding
  else done ++ [(line.1, resolved)]

lemma resolveAll_eq (environment : List (String × String)) (lines : List Binding) :
    resolveAll environment lines = lines.foldl (bindLine environment) [] := rfl

/-- The names that lines ask of the environment, after those that are bound already. -/
def askedBy (bound : List String) : List Binding → List String
  | []                    => []
  | (name, value) :: rest =>
    let named := value.toList.flatMap fun value => references (value.length + 1) value.toList
    named.filter (· ∉ bound) ++ askedBy (name :: bound) rest

/-- What a line binds stays bound. -/
lemma isSome_lookup_bindLine {environment : List (String × String)} {done : List Binding}
    {line : Binding} {name : String} (h : name = line.1 ∨ (done.lookup name).isSome) :
    ((bindLine environment done line).lookup name).isSome := by
  rw [bindLine, lookup_replace_or_add]
  split_ifs with hname
  · rfl
  · exact h.resolve_left hname

variable {environment other : List (String × String)} {done : List Binding}

lemma valueAfter_congr {name : String}
    (h : (done.lookup name).isSome ∨ environment.lookup name = other.lookup name) :
    valueAfter environment done name = valueAfter other done name := by
  unfold valueAfter
  cases hdone : done.lookup name with
  | some value => simp only
  | none => simpa [hdone] using h

lemma bindLine_congr {line : Binding}
    (h : ∀ value ∈ line.2, ∀ name ∈ references (value.length + 1) value.toList,
      valueAfter environment done name = valueAfter other done name) :
    bindLine environment done line = bindLine other done line := by
  have hvalue : line.2.map (fun value => String.ofList
        (resolve (valueAfter environment done) (value.length + 1) value.toList)) =
      line.2.map fun value => String.ofList
        (resolve (valueAfter other done) (value.length + 1) value.toList) :=
    Option.map_congr fun value hmem => by rw [resolve_congr (h value hmem)]
  simp only [bindLine, hvalue]

lemma foldl_bindLine_congr {bound : List String} {lines : List Binding}
    (hbound : ∀ name ∈ bound, (done.lookup name).isSome)
    (h : ∀ name ∈ askedBy bound lines, environment.lookup name = other.lookup name) :
    lines.foldl (bindLine environment) done = lines.foldl (bindLine other) done := by
  induction lines generalizing bound done with
  | nil => simp only [List.foldl_nil]
  | cons line rest ih =>
    obtain ⟨name, value⟩ := line
    rw [askedBy, List.forall_mem_append] at h
    have hline : bindLine environment done (name, value) = bindLine other done (name, value) := by
      refine bindLine_congr fun text htext n hn => valueAfter_congr ?_
      by_cases hmem : n ∈ bound
      · exact .inl (hbound n hmem)
      · refine .inr (h.1 n (List.mem_filter.mpr ⟨?_, by simpa using hmem⟩))
        exact List.mem_flatMap.mpr ⟨text, Option.mem_toList.mpr htext, hn⟩
    rw [List.foldl_cons, List.foldl_cons, ← hline]
    refine ih ?_ h.2
    intro n hn
    refine isSome_lookup_bindLine ?_
    exact (List.mem_cons.mp hn).imp_right (hbound n)

/-- The names that a text asks of the environment. -/
def asked (text : String) : List String :=
  askedBy [] (readLines (text.length + 1) (dropMark text.toList))

/-- Environments with the same values of what a text asks for give it the same bindings. -/
lemma parse_congr {text : String}
    (h : ∀ name ∈ asked text, environment.lookup name = other.lookup name) :
    parse environment text = parse other text := by
  rw [parse, parse, resolveAll_eq, resolveAll_eq]
  exact foldl_bindLine_congr (by simp) h

end Outline.Dotenv
