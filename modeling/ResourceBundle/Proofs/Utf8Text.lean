import ResourceBundle.Proofs.NormalControls
import ResourceBundle.Text.Utf8

/-! # Texts in UTF-8

Reading takes back what writing gives, and accepts nothing else. -/

namespace ResourceBundle.Text.Utf8

end ResourceBundle.Text.Utf8
