import DiceChat.Text.Kind.Entry

/-! Kinds of what displays sessions. -/

namespace DiceChat.Catalogue

/-- The kind of displays. -/
def displayConfigEntry : KindEntry where
  name := "DisplayConfig"
  home := "utils.render"
  measures := [24, 0, 546320, -48, 16]
  about := ["顯示長度上限（字元）"]
  parts :=
    partsOf .home ["__module__"] ++
    partsOf .thing ["__annotations__"] ++
    partsOf .account ["__doc__"] ++
    partsOf .thing ["single_truncate double_truncate"] ++
    [⟨"__dict__", .quality, "", ["dictionary for instance variables"]⟩,
     ⟨"__weakref__", .quality, "", ["list of weak references to the object"]⟩] ++
    partsOf .thing ["__dataclass_params__ __dataclass_fields__"] ++
    partsOf .function ["__init__ __repr__ __eq__ __setattr__ __delattr__ __hash__"] ++
    partsOf .thing ["__match_args__"]

/-- The kind of markups. -/
def markupEntry : KindEntry where
  name := "Markup"
  home := "utils.render"
  measures := [24, 0, 546320, -48, 16]
  about := ["強調標記，\x7b\x7d 為被包住的文字"]
  parts :=
    partsOf .home ["__module__"] ++
    partsOf .thing ["__annotations__"] ++
    partsOf .account ["__doc__"] ++
    [⟨"__dict__", .quality, "", ["dictionary for instance variables"]⟩,
     ⟨"__weakref__", .quality, "", ["list of weak references to the object"]⟩] ++
    partsOf .thing ["__dataclass_params__ __dataclass_fields__"] ++
    partsOf .function ["__init__ __repr__ __eq__ __setattr__ __delattr__ __hash__"] ++
    partsOf .thing ["__match_args__"]

/-- The kind of rendered sessions. -/
def renderedRollEntry : KindEntry where
  name := "RenderedRoll"
  home := "utils.render"
  measures := [24, 0, 546320, -48, 16]
  about := ["RenderedRoll(text: str, record: Optional[Dict[str, Any]] = None)"]
  parts :=
    partsOf .home ["__module__"] ++
    partsOf .thing ["__annotations__"] ++
    partsOf .nothing ["record"] ++
    [⟨"__dict__", .quality, "", ["dictionary for instance variables"]⟩,
     ⟨"__weakref__", .quality, "", ["list of weak references to the object"]⟩,
     ⟨"__doc__", .account, "", []⟩] ++
    partsOf .thing ["__dataclass_params__ __dataclass_fields__"] ++
    partsOf .function ["__init__ __repr__ __eq__ __setattr__ __delattr__ __hash__"] ++
    partsOf .thing ["__match_args__"]

/-- The kinds of this module. -/
def displaysEntries : List KindEntry :=
  [displayConfigEntry, markupEntry, renderedRollEntry]

end DiceChat.Catalogue
