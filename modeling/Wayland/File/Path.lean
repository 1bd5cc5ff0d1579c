import Wayland.Text.Blank

/-!
Contract: file paths with slashes.

Owns: the last component, the extension, the directory, the cleaned form and joining.

Does not own: what stands at a path.
-/

namespace Wayland.File.Path

open Wayland.Text (splitChars)

/-- The characters after the last slash. -/
def lastComponent
    (chars : List Char) :
    List Char :=
  (chars.reverse.takeWhile (· != '/')).reverse

/-- The extension with its dot: what stands from the last dot of the last component on. -/
def extension
    (path : String) :
    String :=
  let component := lastComponent path.toList
  if component.contains '.' then
    String.ofList ('.' :: (component.reverse.takeWhile (· != '.')).reverse)
  else ""

/-- The last component of a path without its trailing slashes; `.` for the empty path. -/
def base
    (path : String) :
    String :=
  if path.isEmpty then "."
  else
    match (path.toList.reverse.dropWhile (· == '/')).reverse with
    | [] => "/"
    | chars => String.ofList (lastComponent chars)

/-- Takes one component into a cleaned path, whose components are kept latest first. -/
def cleanStep
    (rooted : Bool)
    (kept : List (List Char))
    (component : List Char) :
    List (List Char) :=
  if component.isEmpty || component == ['.'] then kept
  else if component == ['.', '.'] then
    match kept with
    | [] => if rooted then [] else [component]
    | last :: others => if last == ['.', '.'] then component :: kept else others
  else component :: kept

/-- The shortest path that means the same by text alone. -/
def clean
    (path : String) :
    String :=
  let chars := path.toList
  let rooted := chars.head? == some '/'
  let kept := (splitChars '/' chars).foldl (cleanStep rooted) []
  let text := String.intercalate "/" (kept.reverse.map String.ofList)
  if rooted then "/" ++ text
  else if text.isEmpty then "."
  else text

/-- Joins path components, leaving out empty ones, and cleans the result. -/
def join
    (components : List String) :
    String :=
  match components.filter (!·.isEmpty) with
  | [] => ""
  | kept => clean (String.intercalate "/" kept)

/-- The cleaned path of everything before the last slash. -/
def directory
    (path : String) :
    String :=
  clean (String.ofList (path.toList.reverse.dropWhile (· != '/')).reverse)

def isAbsolute
    (path : String) :
    Bool :=
  path.toList.head? == some '/'

end Wayland.File.Path
