import Issuebot.Agent.Characters
import Issuebot.Logic.Text

/-!
# NFKC

Unicode's compatibility normalisation is taken as it is documented. A text falls into clusters, a
character that has a boundary before it with the characters behind it that have none, and each
cluster is normalised on its own (`boundary`). What a cluster can become is stated for the
characters a tag is made of: a `<`, a `/` or a space comes from its own character alone, or has
something behind it that no tag has (`edge`), and a cluster of more than one character is left
with a mark or with a composite (`marks`).
-/

namespace Issuebot
set_option autoImplicit false
open Logic

/-- `_LESS_THAN` -/
def isLessThan (c : Char) : Bool := c = '<' || c = '\uff1c' || c = '\ufe64'

/-- The solidus of `_GAP`. -/
def isSolidus (c : Char) : Bool := c = '/' || c = '\uff0f'

/-- The two letters beyond ASCII that a regular expression takes for `i` when it ignores case. -/
def dottedI : Char := '\u0130'

def dotlessI : Char := '\u0131'

/-- A character that a tag can have: ASCII, a space, or one of the two letters. -/
def isPlain (c : Char) : Bool := c.toNat < 0x80 || isSpace c || c = dottedI || c = dotlessI

/-- An ASCII character that composes with no mark. -/
def isAsciiSymbol (c : Char) : Bool := c.toNat < 0x80 && !c.isAlpha && c ≠ '<' && c ≠ '=' && c ≠ '>'

/-- `unicodedata.normalize("NFKC", ·)`, with the characters that may be moved or composed with what is before
them, and the `\w` of regular expressions. -/
structure Nfkc where
  normalize : Text → Text
  joins : Char → Bool
  isWord : Char → Bool
  boundary : ∀ front c rest, joins c = false → normalize (front ++ c :: rest) = normalize front ++ normalize (c :: rest)
  ascii_joins : ∀ c, c.toNat < 0x80 → joins c = false
  ascii : ∀ c, c.toNat < 0x80 → normalize [c] = [c]
  symbol : ∀ c marks, isAsciiSymbol c = true → (normalize (c :: marks)).head? = some c
  lessThan_fold : ∀ c, isLessThan c = true → normalize [c] = ['<']
  solidus_fold : ∀ c, isSolidus c = true → normalize [c] = ['/']
  space_fold : ∀ c, isSpace c = true → ∃ space, normalize [c] = [space] ∧ isSpace space = true
  nonempty : ∀ c rest, normalize (c :: rest) ≠ []
  /-- Only a less-than becomes one, at the head of its cluster. -/
  lessThan : ∀ c marks front rest, (∀ mark ∈ marks, joins mark = true) →
    normalize (c :: marks) = front ++ '<' :: rest → isLessThan c = true ∧ front = []
  /-- A `<`, a `/` or a space stands alone in its cluster, or has something else behind it there. -/
  edge : ∀ c marks x rest, joins c = false → (∀ mark ∈ marks, joins mark = true) → normalize (c :: marks) = x :: rest →
    x = '<' ∨ x = '/' ∨ isSpace x = true →
      marks = [] ∧ rest = [] ∧ (x = '<' → isLessThan c = true) ∧ (x = '/' → isSolidus c = true) ∧
        (isSpace x = true → isSpace c = true) ∨
      ∃ y more, rest = y :: more ∧ isPlain y = false
  /-- A cluster with marks ends in something no tag has, or is an `i` with its dot. -/
  marks : ∀ c marks, joins c = false → marks ≠ [] → (∀ mark ∈ marks, joins mark = true) →
    ∃ front x, normalize (c :: marks) = front ++ [x] ∧ (isPlain x = false ∨ x = dottedI ∧ marks.length = 1)
  /-- Nothing a tag has stands before a space or a `>` in one cluster. -/
  before : ∀ c marks front x y rest, joins c = false → (∀ mark ∈ marks, joins mark = true) →
    normalize (c :: marks) = front ++ x :: y :: rest → isSpace y = true ∨ y = '>' → isPlain x = false
  /-- Whether a cluster begins with a letter is its first character's doing. -/
  head_word : ∀ c marks, joins c = false → (∀ mark ∈ marks, joins mark = true) →
    (normalize (c :: marks)).head?.map isWord = (normalize [c]).head?.map isWord
  word_alpha : ∀ c, c.isAlpha = true → isWord c = true
  word_solidus : isWord '/' = false
  word_greater : isWord '>' = false
  word_space : ∀ c, isSpace c = true → isWord c = false

namespace Nfkc

variable {n : Nfkc} {text front rest : Text} {c : Char}

/-- A text that begins where a cluster does. -/
def Starts (n : Nfkc) (text : Text) : Prop := ∀ c ∈ text.head?, n.joins c = false

theorem starts_nil : n.Starts [] := fun _ mem => nomatch mem

theorem starts_cons (starts : n.joins c = false) : n.Starts (c :: rest) := by
  intro d mem
  cases mem
  exact starts

theorem Starts.ascii (ascii : c.toNat < 0x80) : n.Starts (c :: rest) := starts_cons (n.ascii_joins c ascii)

theorem normalize_nil : n.normalize [] = [] := by
  have whole := n.boundary [] 'a' [] (n.ascii_joins 'a' (by decide))
  rw [List.nil_append] at whole
  exact List.self_eq_append_left.mp whole

/-- What begins where a cluster does is normalised on its own. -/
theorem Starts.append (starts : n.Starts rest) : n.normalize (front ++ rest) = n.normalize front ++ n.normalize rest := by
  cases rest with
  | nil => rw [normalize_nil, List.append_nil, List.append_nil]
  | cons c rest => exact n.boundary front c rest (starts c rfl)

/-- A text cluster by cluster. -/
theorem cluster_induction {motive : Text → Prop} (nil : motive [])
    (cluster : ∀ c marks rest, n.joins c = false → (∀ mark ∈ marks, n.joins mark = true) → n.Starts rest → motive rest →
      motive (c :: (marks ++ rest)))
    (text : Text) (starts : n.Starts text) : motive text := by
  have all : ∀ (length : Nat) (text : Text), text.length ≤ length → n.Starts text → motive text := by
    intro length
    induction length with
    | zero =>
      intro text short _
      rw [List.length_eq_zero_iff.mp (Nat.le_zero.mp short)]
      exact nil
    | succ length ih =>
      intro text short starts
      cases text with
      | nil => exact nil
      | cons c rest =>
        have split : rest.takeWhile n.joins ++ rest.dropWhile n.joins = rest := List.takeWhile_append_dropWhile
        have starts_rest : n.Starts (rest.dropWhile n.joins) := by
          intro d mem
          have kept := List.head?_dropWhile_not n.joins rest
          rw [Option.mem_def.mp mem] at kept
          exact kept
        have shorter : (rest.dropWhile n.joins).length ≤ length := by
          have le := (List.dropWhile_suffix n.joins (l := rest)).length_le
          have whole : rest.length + 1 ≤ length + 1 := short
          omega
        rw [← split]
        exact cluster c _ _ (starts c rfl) (fun mark mem => List.mem_takeWhile_imp mem) starts_rest
          (ih _ shorter starts_rest)
  exact all text.length text (Nat.le_refl _) starts

/-- A cluster and what is behind it. -/
theorem normalize_cluster {marks : Text} (starts : n.Starts rest) :
    n.normalize (c :: (marks ++ rest)) = n.normalize (c :: marks) ++ n.normalize rest := by
  rw [← starts.append, List.cons_append]

/-- ASCII is left as it is. -/
theorem normalize_ascii {ascii : Text} (all : ∀ c ∈ ascii, c.toNat < 0x80) (starts : n.Starts rest) :
    n.normalize (ascii ++ rest) = ascii ++ n.normalize rest := by
  induction ascii with
  | nil => rfl
  | cons c ascii ih =>
    have later : ∀ d ∈ ascii, d.toNat < 0x80 := fun d mem => all d (List.mem_cons_of_mem _ mem)
    have starts_later : n.Starts (ascii ++ rest) := by
      cases ascii with
      | nil => exact starts
      | cons d ascii => exact .ascii (later d List.mem_cons_self)
    have whole : n.normalize ([c] ++ (ascii ++ rest)) = n.normalize [c] ++ n.normalize (ascii ++ rest) := starts_later.append
    rw [n.ascii c (all c List.mem_cons_self), ih later] at whole
    exact whole

/-- A `<` of a normalised text, as the character it comes from. -/
theorem split_lessThan {before after : Text} (starts : n.Starts text) (found : n.normalize text = before ++ '<' :: after) :
    ∃ front l rest, text = front ++ l :: rest ∧ isLessThan l = true ∧ n.joins l = false ∧
      n.normalize (l :: rest) = '<' :: after := by
  revert before
  apply cluster_induction (motive := fun text => ∀ before, n.normalize text = before ++ '<' :: after → ∃ front l rest,
    text = front ++ l :: rest ∧ isLessThan l = true ∧ n.joins l = false ∧ n.normalize (l :: rest) = '<' :: after) _ _ text starts
  · intro before found
    rw [normalize_nil] at found
    exact absurd found.symm (by simp)
  · intro c marks rest starts_c are_marks starts_rest ih before found
    have whole := found
    rw [normalize_cluster starts_rest] at found
    rcases List.append_eq_append_iff.mp found with ⟨more, is_before, later⟩ | ⟨more, is_form, later⟩
    · obtain ⟨front, l, tail, rfl, less, starts_l, is_after⟩ := ih more later
      exact ⟨c :: (marks ++ front), l, tail, by simp, less, starts_l, is_after⟩
    · cases more with
      | nil =>
        rw [List.nil_append] at later
        obtain ⟨front, l, tail, rfl, less, starts_l, is_after⟩ := ih [] later.symm
        exact ⟨c :: (marks ++ front), l, tail, by simp, less, starts_l, is_after⟩
      | cons d more =>
        obtain ⟨same, is_after⟩ := List.cons.inj later
        rw [← same] at is_form
        obtain ⟨less, nothing⟩ := n.lessThan c marks before more are_marks is_form
        rw [nothing, List.nil_append] at whole
        exact ⟨[], c, marks ++ rest, rfl, less, starts_c, whole⟩

/-- Without a less-than of any form there is no `<`. -/
theorem no_lessThan (none_in : ∀ c ∈ text, isLessThan c = false) : '<' ∉ n.normalize text := by
  have at_starts : ∀ text, n.Starts text → (∀ c ∈ text, isLessThan c = false) → '<' ∉ n.normalize text := by
    intro text starts none_in mem
    obtain ⟨before, after, found⟩ := List.append_of_mem mem
    obtain ⟨front, l, rest, rfl, less, -⟩ := split_lessThan starts found
    rw [none_in l (by simp)] at less
    cases less
  cases text with
  | nil =>
    rw [normalize_nil]
    exact List.not_mem_nil
  | cons c rest =>
    have starts_rest : n.Starts (rest.dropWhile n.joins) := by
      intro d mem
      have kept := List.head?_dropWhile_not n.joins rest
      rw [Option.mem_def.mp mem] at kept
      exact kept
    intro mem
    rw [← List.takeWhile_append_dropWhile (p := n.joins) (l := rest), normalize_cluster starts_rest] at mem
    rcases List.mem_append.mp mem with here | later
    · obtain ⟨before, after, found⟩ := List.append_of_mem here
      have less := (n.lessThan c _ before after (fun mark mem => List.mem_takeWhile_imp mem) found).1
      rw [none_in c List.mem_cons_self] at less
      cases less
    · refine at_starts _ starts_rest (fun d mem => none_in d (List.mem_cons_of_mem _ ?_)) later
      exact (List.dropWhile_suffix _).subset mem

/-- A `<`, `/` or space with something of a tag behind it stands alone in the text. -/
theorem peel {x : Char} {more : Text} (starts : n.Starts text) (found : n.normalize text = x :: more)
    (is_edge : x = '<' ∨ x = '/' ∨ isSpace x = true) (plain : ∀ y ∈ more.head?, isPlain y = true) :
    ∃ c rest, text = c :: rest ∧ n.Starts rest ∧ n.normalize rest = more ∧ (x = '/' → isSolidus c = true) ∧
      (isSpace x = true → isSpace c = true) := by
  revert found
  apply cluster_induction (motive := fun text => n.normalize text = x :: more → ∃ c rest, text = c :: rest ∧ n.Starts rest ∧
    n.normalize rest = more ∧ (x = '/' → isSolidus c = true) ∧ (isSpace x = true → isSpace c = true)) _ _ text starts
  · intro found
    rw [normalize_nil] at found
    cases found
  · intro c marks rest starts_c are_marks starts_rest _ found
    rw [normalize_cluster starts_rest] at found
    obtain ⟨y, form, is_form⟩ := List.exists_cons_of_ne_nil (n.nonempty c marks)
    rw [is_form, List.cons_append] at found
    obtain ⟨rfl, is_more⟩ := List.cons.inj found
    rcases n.edge c marks y form starts_c are_marks is_form is_edge with ⟨rfl, rfl, -, solidus, space⟩ | ⟨z, tail, rfl, other⟩
    · exact ⟨c, rest, rfl, starts_rest, is_more, solidus, space⟩
    · rw [← is_more] at plain
      rw [plain z rfl] at other
      cases other

/-- A cluster that becomes nothing but a tag's characters is short. -/
theorem cluster_length {marks form : Text} (starts : n.joins c = false) (are_marks : ∀ mark ∈ marks, n.joins mark = true)
    (is_form : n.normalize (c :: marks) = form) (plain : ∀ x ∈ form, isPlain x = true) :
    (c :: marks).length ≤ form.length + form.count dottedI := by
  by_cases alone : marks = []
  · subst alone
    have some_form : 0 < form.length := List.length_pos_iff.mpr (is_form ▸ n.nonempty c [])
    rw [List.length_singleton]
    omega
  · obtain ⟨front, x, is_snoc, other | ⟨rfl, single⟩⟩ := n.marks c marks starts alone are_marks
    · rw [is_form] at is_snoc
      have is_plain := plain x (by rw [is_snoc]; exact List.mem_append_right _ (List.mem_singleton_self _))
      rw [is_plain] at other
      cases other
    · rw [is_form] at is_snoc
      rw [is_snoc, List.length_append, List.count_append, List.count_singleton_self, List.length_cons, single,
        List.length_singleton]
      omega

/-- A run of a tag's characters before a space or a `>` comes from a stretch of the text that is hardly longer,
and ends where a cluster begins. -/
theorem name_clusters {name more : Text} {next : Char} (starts : n.Starts text)
    (found : n.normalize text = name ++ next :: more) (nonempty : name ≠ []) (plain : ∀ x ∈ name, isPlain x = true)
    (ends : isSpace next = true ∨ next = '>') :
    ∃ raw b rest, text = raw ++ b :: rest ∧ n.Starts raw ∧ n.normalize raw = name ∧
      raw.length ≤ name.length + name.count dottedI ∧ n.joins b = false ∧ n.normalize (b :: rest) = next :: more := by
  revert name
  apply cluster_induction (motive := fun text => ∀ name, n.normalize text = name ++ next :: more → name ≠ [] →
    (∀ x ∈ name, isPlain x = true) → ∃ raw b rest, text = raw ++ b :: rest ∧ n.Starts raw ∧ n.normalize raw = name ∧
      raw.length ≤ name.length + name.count dottedI ∧ n.joins b = false ∧ n.normalize (b :: rest) = next :: more) _ _ text starts
  · intro name found
    rw [normalize_nil] at found
    exact absurd found.symm (by simp)
  · intro c marks rest starts_c are_marks starts_rest ih name found nonempty plain
    rw [normalize_cluster starts_rest] at found
    -- the cluster ends inside the name, or the name inside the cluster
    have inside : ∃ later, name = n.normalize (c :: marks) ++ later ∧ n.normalize rest = later ++ next :: more := by
      rcases List.append_eq_append_iff.mp found with ⟨later, is_name, is_rest⟩ | ⟨later, is_form, is_next⟩
      · exact ⟨later, is_name, is_rest⟩
      · cases later with
        | nil => exact ⟨[], by rw [is_form]; simp, is_next.symm⟩
        | cons d later =>
          obtain ⟨same, -⟩ := List.cons.inj is_next
          obtain ⟨front, x, rfl⟩ := (List.eq_nil_or_concat' name).resolve_left nonempty
          have is_form : n.normalize (c :: marks) = front ++ x :: next :: later := by rw [is_form, same]; simp
          have other := n.before c marks front x next later starts_c are_marks is_form ends
          rw [plain x (by simp)] at other
          cases other
    obtain ⟨later, rfl, is_rest⟩ := inside
    have short := cluster_length starts_c are_marks rfl fun x mem => plain x (List.mem_append_left _ mem)
    by_cases ended : later = []
    · subst ended
      rw [List.nil_append] at is_rest
      cases rest with
      | nil =>
        rw [normalize_nil] at is_rest
        cases is_rest
      | cons b rest =>
        rw [List.append_nil]
        exact ⟨c :: marks, b, rest, rfl, starts_cons starts_c, rfl, short, starts_rest b rfl, is_rest⟩
    · obtain ⟨raw, b, tail, rfl, starts_raw, is_later, later_short, starts_b, is_next⟩ :=
        ih later is_rest ended fun x mem => plain x (List.mem_append_right _ mem)
      refine ⟨c :: (marks ++ raw), b, tail, by simp, starts_cons starts_c, ?_, ?_, starts_b, is_next⟩
      · rw [normalize_cluster starts_raw, is_later]
      · have lengths : (c :: (marks ++ raw)).length = (c :: marks).length + raw.length := by simp; omega
        rw [lengths, List.length_append, List.count_append]
        omega

/-- Whether a text begins with a word is its first character's doing. -/
theorem head_isWord (rest : Text) (starts : n.joins c = false) :
    (n.normalize (c :: rest)).head?.map n.isWord = (n.normalize [c]).head?.map n.isWord := by
  have starts_rest : n.Starts (rest.dropWhile n.joins) := by
    intro d mem
    have kept := List.head?_dropWhile_not n.joins rest
    rw [Option.mem_def.mp mem] at kept
    exact kept
  have are_marks : ∀ mark ∈ rest.takeWhile n.joins, n.joins mark = true := fun mark mem => List.mem_takeWhile_imp mem
  obtain ⟨x, form, is_form⟩ := List.exists_cons_of_ne_nil (n.nonempty c (rest.takeWhile n.joins))
  rw [← n.head_word c _ starts are_marks, ← List.takeWhile_append_dropWhile (p := n.joins) (l := rest),
    normalize_cluster starts_rest, List.takeWhile_append_dropWhile, is_form]
  rfl

end Nfkc
end Issuebot
