import RangeIndex.Command.Arguments
import RangeIndex.Command.Host
import RangeIndex.Index.Draft
import RangeIndex.Index.Layout

/-!
# Writing an index back

An index is put into normal form: files in the order of their names, and in each file occurrences
and declarations in the order of where they start.
-/

namespace RangeIndex.Command.Format

/-- The style that is asked for. The command line counts more than the settings. -/
def style (args : FormatArgs) (settings : Settings) : Style :=
  if args.compact then .compact
  else if args.pretty || settings.pretty then .pretty
  else .compact

/-- The draft that takes a file over. -/
def draft (f : FileIndex) : Draft :=
  (Draft.new f.filename f.hash).loadCache f

/-- A file in normal form. -/
def normalize (f : FileIndex) : FileIndex :=
  (draft f).build

/-- What putting a file into normal form reports. -/
def normalizeEvents (f : FileIndex) : List IndexEvent :=
  (Draft.new f.filename f.hash).cacheEvent f :: (draft f).buildEvents

/-- The files of an index in normal form, in the order of their names. -/
def normalForm (index : Index) : List FileIndex :=
  (index.values.map normalize).mergeSort fun a b => a.filename ≤ b.filename

/-- The text of an index in normal form. -/
def text (style : Style) (index : Index) : String :=
  writeAll style (normalForm index)

/-- Reads an index and writes it to the output. Without an output the text is the result. -/
def run {m : Type → Type} [Monad m] (host : Host m) (args : FormatArgs) (settings : Settings) :
    m (Run String) := do
  let reading ← host.readIndex args.input
  match reading.outcome with
  | .error e => return ⟨reading.events, .error e⟩
  | .ok index =>
    let events := reading.events ++ (index.values.flatMap normalizeEvents).map .index
    let text := text (style args settings) index
    match args.output with
    | none => return ⟨events, .ok text⟩
    | some path =>
      match ← host.create path text with
      | .error e => return ⟨events, .error (.creating path e)⟩
      | .ok () => return ⟨events ++ [.formatted index.size path], .ok ""⟩

end RangeIndex.Command.Format
