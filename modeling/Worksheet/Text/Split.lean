/-! Splitting of a text at a separator, and lines that end in line feeds. -/

namespace Worksheet.Text

/-- The runs of characters between the separators of a text, any of which may be empty. -/
def split (separator : Char) (cs : List Char) : List (List Char) :=
  -- From the right, a separator begins a new run and any other character extends the first one.
  let (first, others) := cs.foldr
    (fun c (run, others) =>
      if c = separator then ([], run :: others) else (c :: run, others))
    ([], [])
  first :: others

/-- The text with a line feed after every line. -/
def unlines (lines : List (List Char)) : List Char :=
  lines.flatMap fun line => line ++ ['\n']

end Worksheet.Text
