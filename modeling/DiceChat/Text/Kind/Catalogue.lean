import DiceChat.Text.Kind.Catalogue.Bytes
import DiceChat.Text.Kind.Catalogue.Chats
import DiceChat.Text.Kind.Catalogue.Choices
import DiceChat.Text.Kind.Catalogue.Configs
import DiceChat.Text.Kind.Catalogue.Displays
import DiceChat.Text.Kind.Catalogue.Faults
import DiceChat.Text.Kind.Catalogue.Flags
import DiceChat.Text.Kind.Catalogue.Functions
import DiceChat.Text.Kind.Catalogue.General
import DiceChat.Text.Kind.Catalogue.Hints
import DiceChat.Text.Kind.Catalogue.Loggers
import DiceChat.Text.Kind.Catalogue.Numbers
import DiceChat.Text.Kind.Catalogue.Operations
import DiceChat.Text.Kind.Catalogue.Readers
import DiceChat.Text.Kind.Catalogue.Records
import DiceChat.Text.Kind.Catalogue.Rows
import DiceChat.Text.Kind.Catalogue.Sources
import DiceChat.Text.Kind.Catalogue.SystemFaults
import DiceChat.Text.Kind.Catalogue.Tables
import DiceChat.Text.Kind.Catalogue.Texts
import DiceChat.Text.Kind.Catalogue.Walks

/-! All kinds that are known besides those of fixed lists. -/

namespace DiceChat

/-- What is known of kinds. -/
def catalogue : List KindEntry :=
  Catalogue.generalEntries ++ Catalogue.numbersEntries ++ Catalogue.textsEntries ++
    Catalogue.rowsEntries ++ Catalogue.tablesEntries ++ Catalogue.bytesEntries ++
    Catalogue.walksEntries ++ Catalogue.operationsEntries ++ Catalogue.functionsEntries ++
    Catalogue.choicesEntries ++ Catalogue.flagsEntries ++ Catalogue.faultsEntries ++
    Catalogue.systemFaultsEntries ++ Catalogue.recordsEntries ++ Catalogue.hintsEntries ++
    Catalogue.sourcesEntries ++ Catalogue.displaysEntries ++ Catalogue.readersEntries ++
    Catalogue.loggersEntries ++ Catalogue.configsEntries ++ Catalogue.chatsEntries

end DiceChat
