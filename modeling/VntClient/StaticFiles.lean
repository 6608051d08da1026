import VntClient.FilePaths
import VntClient.Table

/-!
The pages of the HTTP service: a file of the directory `static` where there is one, else what
was built into the program. The path of a request comes as it was sent, in the characters that
the parser of URIs lets through, and nothing in it is decoded.
-/

namespace VntClient
open FilePaths (Location Tree Plain Rooted)

def staticDir : List Char := "static".toList

/-- The types of files by their names, the pages of the program, and the characters that a URI
may have in its path: unreserved ones are among them, and no control characters. -/
structure StaticSite where
  mime : List Char → String
  asset : List Char → Option (List UInt8)
  pathChar : Char → Bool
  unreserved : ∀ char ∈ "/../index.html".toList, pathChar char = true
  control : pathChar '\x00' = false

def StaticSite.UriPath (site : StaticSite) : Type :=
  { path : List Char // ∀ char ∈ path, site.pathChar char = true }

inductive StaticResponse
  | served (headers : List (String × String)) (content : List UInt8)
  | notFound

namespace StaticSite
variable (site : StaticSite)

/-- `trim_end_matches(".gz")`, of a text read backwards. -/
def trimGz : List Char → List Char
  | 'z' :: 'g' :: '.' :: rest => trimGz rest
  | text => text

def buildHeadersForPath (path : List Char) : List (String × String) :=
  let isGz := ".gz".toList.isSuffixOf path
  let mime := if isGz then site.mime (trimGz path.reverse).reverse else site.mime path
  ("content-type", mime) ::
    (if isGz then [("content-encoding", "gzip"), ("vary", "Accept-Encoding")] else []) ++
      [("cache-control", "public, max-age=31536000, immutable")]

def pagePath (uriPath : List Char) : List Char :=
  let path := uriPath.dropWhile fun char => char = '/'
  if path = [] then "index.html".toList else path

/-- `readable` is whether reading a file that is there succeeds. -/
def staticHandler (tree : Tree) (current : Location) (readable : Bool) (uriPath : site.UriPath) :
    StaticResponse :=
  let path := pagePath uriPath.val
  let localPath := FilePaths.join staticDir path
  match (if readable then FilePaths.read tree current localPath else none) with
  | some content => .served [("content-type", site.mime localPath)] content
  | none =>
      match site.asset path with
      | some data => .served (site.buildHeadersForPath path) data
      | none => .notFound

end StaticSite

open StaticSite

theorem plain_staticDir : Plain staticDir := by decide +kernel

theorem pagePath_relative (uriPath : List Char) : (pagePath uriPath).head? ≠ some '/' := by
  rw [pagePath]
  split
  · decide +kernel
  · intro absolute
    have kept := List.head?_dropWhile_not (fun char : Char => decide (char = '/')) uriPath
    rw [absolute] at kept
    simp at kept

theorem join_pagePath (uriPath : List Char) :
    FilePaths.join staticDir (pagePath uriPath) = staticDir ++ '/' :: pagePath uriPath := by
  rw [FilePaths.join, if_neg (pagePath_relative uriPath), if_neg]
  exact not_or.mpr ⟨plain_staticDir.nonempty, plain_staticDir.getLast_ne⟩

theorem locate_page {tree : Tree} {current : Location} (uriPath : List Char) :
    FilePaths.locate tree current (FilePaths.join staticDir (pagePath uriPath)) =
      if '\x00' ∉ pagePath uriPath ∧ tree current = some .directory then
        FilePaths.walk tree (current ++ [staticDir]) ((pagePath uriPath).splitOn '/')
      else none := by
  have relative : (staticDir ++ '/' :: pagePath uriPath).head? ≠ some '/' := by
    rw [List.head?_append_of_ne_nil _ plain_staticDir.nonempty]
    exact plain_staticDir.head_ne
  have clear : '\x00' ∉ staticDir := by decide +kernel
  rw [join_pagePath, FilePaths.locate, if_neg relative,
    List.splitOn_append_cons_self_of_not_mem plain_staticDir.single,
    FilePaths.walk_plain plain_staticDir]
  by_cases null : '\x00' ∈ pagePath uriPath
  · simp [null]
  · simp [null, clear, plain_staticDir.nonempty]

/-- A path without parents. -/
def Downwards (uriPath : List Char) : Prop := ['.', '.'] ∉ uriPath.splitOn '/'

theorem downwards_dropWhile {uriPath : List Char} (downwards : Downwards uriPath) :
    Downwards (uriPath.dropWhile fun char => char = '/') := by
  induction uriPath with
  | nil => exact downwards
  | cons char rest ih =>
      rw [List.dropWhile_cons]
      split
      · rename_i slash
        refine ih fun member => downwards ?_
        rw [List.splitOn_cons_eq_if_modifyHead, if_pos (by simpa using slash)]
        exact List.mem_cons_of_mem _ member
      · exact downwards

theorem downwards_pagePath {uriPath : List Char} (downwards : Downwards uriPath) :
    Downwards (pagePath uriPath) := by
  rw [pagePath]
  split
  · unfold Downwards
    decide +kernel
  · exact downwards_dropWhile downwards

section Site
variable {site : StaticSite} {tree : Tree} {current : Location}

/-- What a page is read from, and what it is served as. -/
theorem staticHandler_served {uriPath : site.UriPath} {location : Location} {content : List UInt8}
    (there : FilePaths.locate tree current (FilePaths.join staticDir (pagePath uriPath.val)) =
      some location) (held : tree location = some (.file content)) :
    site.staticHandler tree current true uriPath = .served
      [("content-type", site.mime (FilePaths.join staticDir (pagePath uriPath.val)))] content := by
  have read := FilePaths.read_eq_some.mpr ⟨location, there, held⟩
  simp [staticHandler, read]

theorem staticHandler_cases {uriPath : site.UriPath} {readable : Bool}
    {headers : List (String × String)} {content : List UInt8}
    (answered : site.staticHandler tree current readable uriPath = .served headers content) :
    FilePaths.read tree current (FilePaths.join staticDir (pagePath uriPath.val)) = some content ∨
      site.asset (pagePath uriPath.val) = some content := by
  rw [staticHandler] at answered
  split at answered
  · rename_i read
    cases answered
    split at read
    · exact .inl read
    · cases read
  · split at answered
    · rename_i built
      cases answered
      exact .inr built
    · cases answered

theorem pathChar_pagePath (uriPath : site.UriPath) :
    ∀ char ∈ pagePath uriPath.val, site.pathChar char = true := by
  intro char member
  rw [pagePath] at member
  split at member
  · have plain : "index.html".toList ⊆ "/../index.html".toList := by decide +kernel
    exact site.unreserved char (plain member)
  · exact uriPath.2 char ((List.dropWhile_sublist _).subset member)

variable (site current) in
/-- Up some way from the directory, and from there down along names that a URI may hold. -/
def Reached (location : Location) : Prop :=
  ∃ count names, location = (current ++ [staticDir]).take count ++ names ∧
    ∀ name ∈ names, ∀ char ∈ name, site.pathChar char = true

theorem locate_page_reached {uriPath : site.UriPath} {location : Location}
    (there : FilePaths.locate tree current (FilePaths.join staticDir (pagePath uriPath.val)) =
      some location) : Reached site current location := by
  rw [locate_page] at there
  split at there
  · obtain ⟨count, names, same, parts⟩ := FilePaths.walk_reaches there
    refine ⟨count, names, same, fun name member char inside => ?_⟩
    exact pathChar_pagePath uriPath char (FilePaths.mem_of_mem_part (parts name member) inside).1
  · cases there

def upAndDown (count : Nat) (names : Location) : List Char :=
  ['/'].intercalate (List.replicate count ['.', '.'] ++ names)

theorem upAndDown_parts (count : Nat) {names : Location} (plain : ∀ name ∈ names, Plain name)
    (nonempty : List.replicate count ['.', '.'] ++ names ≠ []) :
    (upAndDown count names).splitOn '/' = List.replicate count ['.', '.'] ++ names := by
  rw [upAndDown, List.splitOn_intercalate]
  · intro part member
    rcases List.mem_append.mp member with parent | name
    · rw [List.eq_of_mem_replicate parent]
      decide
    · exact (plain part name).single
  · exact nonempty

theorem pathChar_upAndDown (count : Nat) {names : Location}
    (sent : ∀ name ∈ names, ∀ char ∈ name, site.pathChar char = true) :
    ∀ char ∈ '/' :: upAndDown count names, site.pathChar char = true := by
  intro char member
  have slash : site.pathChar '/' = true := site.unreserved _ (by decide +kernel)
  have dot : site.pathChar '.' = true := site.unreserved _ (by decide +kernel)
  rcases List.mem_cons.mp member with rfl | member
  · exact slash
  · rcases FilePaths.mem_intercalate member with rfl | ⟨part, within, inside⟩
    · exact slash
    · rcases List.mem_append.mp within with parent | name
      · rw [List.eq_of_mem_replicate parent] at inside
        have same : char = '.' := by simpa using inside
        rw [same]
        exact dot
      · exact sent part name char inside

theorem pagePath_upAndDown (count : Nat) {names : Location} (plain : ∀ name ∈ names, Plain name)
    (nonempty : List.replicate count ['.', '.'] ++ names ≠ []) :
    pagePath ('/' :: upAndDown count names) = upAndDown count names := by
  have parts := upAndDown_parts count plain nonempty
  -- The first part is a name or the parent's, and neither is empty.
  have first : ∀ part ∈ List.replicate count ['.', '.'] ++ names, part ≠ [] := by
    intro part member
    rcases List.mem_append.mp member with parent | name
    · rw [List.eq_of_mem_replicate parent]
      decide
    · exact (plain part name).nonempty
  cases shape : upAndDown count names with
  | nil =>
      rw [shape, List.splitOn_nil] at parts
      exact absurd rfl (first [] (parts ▸ List.mem_singleton_self []))
  | cons char rest =>
      have dot : char ≠ '/' := by
        rintro rfl
        rw [shape, List.splitOn_cons_eq_if_modifyHead] at parts
        simp only [beq_self_eq_true, ↓reduceIte] at parts
        exact first [] (parts ▸ List.mem_cons_self) rfl
      simp [pagePath, dot]

/-- Every such file can be asked for. -/
theorem exists_uriPath (rooted : Rooted tree)
    (present : tree (current ++ [staticDir]) = some .directory) {location : Location}
    {content : List UInt8} (held : tree location = some (.file content))
    (reached : Reached site current location) :
    ∃ uriPath : site.UriPath, FilePaths.locate tree current
      (FilePaths.join staticDir (pagePath uriPath.val)) = some location := by
  obtain ⟨count, names, same, sent⟩ := reached
  have named := rooted.named location (by simp [held])
  have plain : ∀ name ∈ names, Plain name :=
    fun name member => (named name (same ▸ List.mem_append_right _ member)).1
  have whole : (current ++ [staticDir]).take count ++ (current ++ [staticDir]).drop count =
    current ++ [staticDir] := List.take_append_drop count _
  let parents := ((current ++ [staticDir]).drop count).length
  have nonempty : List.replicate parents ['.', '.'] ++ names ≠ [] := by
    -- Neither up nor down is the directory itself.
    intro nothing
    obtain ⟨up, down⟩ := List.append_eq_nil_iff.mp nothing
    rw [List.replicate_eq_nil_iff, List.length_eq_zero_iff] at up
    rw [up, List.append_nil] at whole
    rw [same, down, List.append_nil, whole, present] at held
    cases held
  have clear : '\x00' ∉ upAndDown parents names := by
    intro null
    have sent := pathChar_upAndDown parents sent '\x00' (List.mem_cons_of_mem _ null)
    rw [site.control] at sent
    cases sent
  have outer := rooted.inside current staticDir (by simp [present])
  have up := FilePaths.walk_up rooted (whole.symm ▸ present) names
  have down := FilePaths.walk_down rooted (by rw [← same, held]; simp)
  refine ⟨⟨'/' :: upAndDown parents names, pathChar_upAndDown parents sent⟩, ?_⟩
  rw [locate_page, pagePath_upAndDown parents plain nonempty, if_pos ⟨clear, outer⟩,
    upAndDown_parts parents plain nonempty, ← whole, up, down, same]

end Site

def sampleDirectories : List Location :=
  [[], [['v', 'n', 't']], [['v', 'n', 't'], staticDir], [['e', 't', 'c']]]

def sampleSystem : Tree := fun location =>
  if location ∈ sampleDirectories then some .directory
  else if location = [['e', 't', 'c'], ['k', 'e', 'y']] then some (.file [1, 2])
  else none

theorem sample_rooted : Rooted sampleSystem := by
  have held : ∀ location, sampleSystem location ≠ none →
      location ∈ [['e', 't', 'c'], ['k', 'e', 'y']] :: sampleDirectories := by
    intro location there
    rw [sampleSystem] at there
    split at there
    · exact List.mem_cons_of_mem _ ‹_›
    · split at there
      · rename_i same
        rw [same]
        exact List.mem_cons_self
      · exact absurd rfl there
  constructor
  · intro here name there
    have above : ∀ location ∈ [['e', 't', 'c'], ['k', 'e', 'y']] :: sampleDirectories,
        location ≠ [] → location.dropLast ∈ sampleDirectories := by decide +kernel
    have outer := above _ (held _ there) (by simp)
    rw [List.dropLast_concat] at outer
    rw [sampleSystem, if_pos outer]
  · intro location there
    have names : ∀ location ∈ [['e', 't', 'c'], ['k', 'e', 'y']] :: sampleDirectories,
        ∀ name ∈ location, Plain name ∧ '\x00' ∉ name := by decide +kernel
    exact names location (held location there)

def sampleSite : StaticSite where
  mime _ := "application/octet-stream"
  asset _ := none
  pathChar char := decide ('!' ≤ char ∧ char ≠ '#' ∧ char ≠ '<' ∧ char ≠ '>' ∧ char ≠ '?' ∧
    char ≠ '`' ∧ char ≠ '\x7f')
  unreserved := List.all_eq_true.mp (by decide +kernel)
  control := by decide +kernel

end VntClient
