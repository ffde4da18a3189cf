import ModalDrill.Bank.Basic

namespace ModalDrill

/-!
# The bundled bank

The questions and the sample text that a drill uses when it is given no other.
-/

namespace QuestionBank

def bundledText : List String :=
  ["Vim is a powerful text editor for efficient editing.",
    "Normal mode commands move the cursor and edit text.",
    "Counts repeat a command, as in 3dd or 5dd.",
    "Yank copies a line; put pastes it below the cursor.",
    "Practice a little every day to build muscle memory.",
    "Words are runs of letters, digits and underscores.",
    "The dollar sign jumps to the end of the line.",
    "Zero jumps back to the very first column.",
    "gg goes to the top of the file and G to the bottom.",
    "x removes the character under the cursor.",
    "Have fun, and keep your fingers on the home row!"]

def bundledQuestions : List Question :=
  [⟨"del-line", "Delete the current line", ["dd", "1dd"]⟩,
    ⟨"yank-paste", "Duplicate the current line (yank & paste)", ["yy p", "yyp"]⟩,
    ⟨"del-word", "Delete the next word starting at cursor", ["dw"]⟩,
    ⟨"change-word", "Change the word under the cursor", ["cw"]⟩,
    ⟨"move-top", "Move to the top of the file", ["gg"]⟩,
    ⟨"move-bottom", "Move to the bottom of the file", ["G"]⟩,
    ⟨"move-begin", "Move to the beginning of the current line", ["0"]⟩,
    ⟨"move-end", "Move to the end of the current line", ["$"]⟩,
    ⟨"word-forward", "Jump forward one word", ["w"]⟩,
    ⟨"word-backward", "Jump backward one word", ["b"]⟩,
    ⟨"delete-char", "Delete the character under the cursor", ["x"]⟩,
    ⟨"move-left", "Move cursor one character to the left", ["h"]⟩,
    ⟨"move-down", "Move cursor one line down", ["j"]⟩,
    ⟨"move-up", "Move cursor one line up", ["k"]⟩,
    ⟨"move-right", "Move cursor one character to the right", ["l"]⟩,
    ⟨"del-2-lines", "Delete 2 consecutive lines", ["2dd"]⟩,
    ⟨"del-3-lines", "Delete 3 consecutive lines", ["3dd"]⟩,
    ⟨"del-5-lines", "Delete 5 consecutive lines", ["5dd"]⟩,
    ⟨"del-10-lines", "Delete 10 consecutive lines", ["10dd"]⟩]

def bundled : QuestionBank :=
  ⟨bundledText.map String.toList, bundledQuestions⟩

end QuestionBank
end ModalDrill
